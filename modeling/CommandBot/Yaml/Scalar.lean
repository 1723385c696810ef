import CommandBot.Text.Hex

/-!
YAML scalars, plain and quoted. Both may run over several lines; the gaps between their words are
folded. A reader stands at a cursor and returns the cursor behind what it has read.
-/

namespace CommandBot.Yaml

/-- A place in a text: what follows it, its column, and whether a block may start here because only
indentation stands before it. -/
structure Cursor where
  rest : List Char
  column : Nat
  fresh : Bool

/-- The characters that end a line. Carriage returns and next-line characters have been replaced by
line feeds. -/
def isBreak (c : Char) : Bool := c == '\n' || c == '\u2028' || c == '\u2029'

/-- Blanks within a line. -/
def isBlank (c : Char) : Bool := c == ' ' || c == '\t'

/-- Nothing, a blank or a line end follows. -/
def endsWord : List Char → Bool
  | [] => true
  | c :: _ => isBlank c || isBreak c

/-- A line that starts with three dashes or three points ends a document. -/
def isMarker (column : Nat) : List Char → Bool
  | '-' :: '-' :: '-' :: cs => column == 0 && endsWord cs
  | '.' :: '.' :: '.' :: cs => column == 0 && endsWord cs
  | _ => false

/-- The gap between two words: blanks on a line, or line breaks. A gap may cross a line without a
break that counts, when the line end is escaped. -/
structure Gap where
  blanks : List Char
  crossed : Bool
  first : Option Char
  later : List Char

namespace Gap

/-- No gap. -/
def none : Gap := ⟨[], false, .none, []⟩

/-- The gap of an escaped line end. -/
def escaped : Gap := ⟨[], true, .none, []⟩

/-- There is no gap. -/
def isNone (gap : Gap) : Bool := gap.blanks.isEmpty && !gap.crossed

/-- Adds a blank. Blanks at the start of a line do not count. -/
def addBlank (gap : Gap) (c : Char) : Gap :=
  if gap.crossed then gap else { gap with blanks := gap.blanks ++ [c] }

/-- Adds a line break. -/
def addBreak (gap : Gap) (c : Char) : Gap :=
  if gap.crossed then { gap with later := gap.later ++ [c] } else ⟨[], true, some c, []⟩

/-- What a gap reads as. A single line feed is folded into a space, and the first of several is
dropped. -/
def text (gap : Gap) : List Char :=
  if !gap.crossed then gap.blanks
  else match gap.first with
    | some '\n' => if gap.later.isEmpty then [' '] else gap.later
    | some c => c :: gap.later
    | .none => gap.later

end Gap

/-- A scalar with the cursor behind it. -/
structure Scanned where
  text : List Char
  next : Cursor

/-- Puts what has been read before what follows. -/
def Scanned.prepend (gap : Gap) (c : Char) (s : Scanned) : Scanned :=
  { s with text := gap.text ++ c :: s.text }

/-- The characters that mean something in YAML at the start of a scalar. -/
def indicators : List Char :=
  ['-', '?', ':', ',', '[', ']', '{', '}', '#', '&', '*', '!', '|', '>', '\'', '"', '%', '@',
    '\x60']

/-- The characters that end a plain scalar inside brackets. -/
def isFlowEnd (c : Char) : Bool :=
  c == ',' || c == '[' || c == ']' || c == '{' || c == '}'

/-- A plain scalar starts here. -/
def startsPlain (flow : Bool) : List Char → Bool
  | [] => false
  | c :: cs =>
    (!isBlank c && !isBreak c && !indicators.contains c) || (c == '-' && !endsWord cs) ||
      (!flow && (c == '?' || c == ':') && !endsWord cs)

/-- Reads a plain scalar from inside it. It ends at a colon or a comment, inside brackets at one of
their characters, and in a block at a line that is indented less than `floor`. The gap before its
end is passed over. -/
def plainFrom (flow : Bool) (floor : Nat) (gap : Gap) (column : Nat) :
    List Char → Option Scanned
  | [] => some ⟨[], ⟨[], column, gap.crossed⟩⟩
  | c :: cs =>
    if isBreak c then plainFrom flow floor (gap.addBreak c) 0 cs
    else if isBlank c then
      if gap.crossed && column < floor && c == '\t' then none
      else plainFrom flow floor (gap.addBlank c) (column + 1) cs
    else
      let outdented := gap.crossed && !flow && column < floor
      let ends := !gap.isNone && (c == '#' || outdented || isMarker column (c :: cs))
      if ends || (c == ':' && endsWord cs) || (flow && isFlowEnd c) then
        some ⟨[], ⟨c :: cs, column, gap.crossed⟩⟩
      else if flow && c == ':' && cs.head?.any (fun d => isFlowEnd d || d == '?') then none
      else (plainFrom flow floor .none (column + 1) cs).map (·.prepend gap c)

/-- Reads a plain scalar. -/
def plain? (flow : Bool) (floor : Nat) (cursor : Cursor) : Option Scanned :=
  if startsPlain flow cursor.rest then plainFrom flow floor .none cursor.column cursor.rest
  else none

/-- The character of an escape that is one letter long. -/
def shortEscape? : Char → Option Char
  | '0' => some '\x00'
  | 'a' => some '\x07'
  | 'b' => some '\x08'
  | 't' | '\t' => some '\t'
  | 'n' => some '\n'
  | 'v' => some '\x0b'
  | 'f' => some '\x0c'
  | 'r' => some '\r'
  | 'e' => some '\x1b'
  | ' ' => some ' '
  | '"' => some '"'
  | '/' => some '/'
  | '\\' => some '\\'
  | 'N' => some '\u0085'
  | '_' => some '\u00a0'
  | 'L' => some '\u2028'
  | 'P' => some '\u2029'
  | _ => none

/-- The number of hexadecimal digits of an escape by number. -/
def escapeDigits? : Char → Option Nat
  | 'x' => some 2
  | 'u' => some 4
  | 'U' => some 8
  | _ => none

/-- Reads a quoted scalar from inside it. `code` holds the digits still to come of an escape by
number, and its value so far. -/
def quotedFrom (quote : Char) (gap : Gap) (column : Nat) (code : Option (Nat × Nat)) :
    List Char → Option Scanned
  | [] => none
  | c :: cs =>
    match code with
    | some (left, value) =>
      match Text.hexValue? c with
      | none => none
      | some digit =>
        let value := value * 16 + digit
        if 1 < left then quotedFrom quote gap (column + 1) (some (left - 1, value)) cs
        else if value.isValidChar then
          (quotedFrom quote .none (column + 1) none cs).map (·.prepend gap (Char.ofNat value))
        else none
    | none =>
      if isBreak c then quotedFrom quote (gap.addBreak c) 0 none cs
      else if isBlank c then quotedFrom quote (gap.addBlank c) (column + 1) none cs
      else if isMarker column (c :: cs) then none
      else if c == quote then
        match cs with
        | '\'' :: cs' =>
          if quote == '\'' then
            (quotedFrom quote .none (column + 2) none cs').map (·.prepend gap '\'')
          else some ⟨gap.text, ⟨cs, column + 1, false⟩⟩
        | _ => some ⟨gap.text, ⟨cs, column + 1, false⟩⟩
      else if c == '\\' && quote == '"' then
        match cs with
        | [] => none
        | e :: cs' =>
          if isBreak e then
            (quotedFrom quote .escaped 0 none cs').map fun s =>
              { s with text := gap.text ++ s.text }
          else match escapeDigits? e with
            | some n => quotedFrom quote gap (column + 2) (some (n, 0)) cs'
            | none =>
              match shortEscape? e with
              | some d => (quotedFrom quote .none (column + 2) none cs').map (·.prepend gap d)
              | none => none
      else (quotedFrom quote .none (column + 1) none cs).map (·.prepend gap c)

/-- Reads a quoted scalar. -/
def quoted? (cursor : Cursor) : Option Scanned :=
  match cursor.rest with
  | c :: cs =>
    if c == '\'' || c == '"' then quotedFrom c .none (cursor.column + 1) none cs else none
  | [] => none

end CommandBot.Yaml
