import CommandBot.Table
import CommandBot.Text.Alphanumeric
import CommandBot.Text.Blank
import CommandBot.Text.Cut

/-!
Files of environment variables: lines `NAME=value`, with or without `export` before them. Values may
be quoted, may run over several lines inside quotes, and may refer to variables.
-/

namespace CommandBot.EnvFile

/-! ### Lines -/

/-- Where a line stands with respect to quotes and escapes. -/
inductive State where
  | plain
  | blank
  | escape
  | single
  | singleEscape
  | double
  | doubleEscape
  deriving DecidableEq, Repr

/-- The state after a character. A hash sign after a blank starts a comment, which has none. -/
def State.next (state : State) (c : Char) : Option State :=
  match state with
  | .escape => some .plain
  | .singleEscape => some .single
  | .doubleEscape => some .double
  | .single => some (if c == '\\' then .singleEscape else if c == '\'' then .plain else .single)
  | .double => some (if c == '\\' then .doubleEscape else if c == '"' then .plain else .double)
  | .plain | .blank =>
    if c == '#' && state == .blank then none
    else if c == '\\' then some .escape
    else if c == '"' then some .double
    else if c == '\'' then some .single
    else if state == .plain && Text.isBlank c && c != '\n' && c != '\r' then some .blank
    else some .plain

/-- A line that ends in this state goes on in the next one. -/
def State.isOpen : State → Bool
  | .plain => false
  | _ => true

/-- Follows a piece of a line: the characters before a comment, and the state at the end unless a
comment ends it. -/
def follow (state : State) : List Char → List Char × Option State
  | [] => ([], some state)
  | c :: cs =>
    match state.next c with
    | none => ([], none)
    | some state =>
      let (kept, last) := follow state cs
      (c :: kept, last)

/-- Cuts bytes after each line feed, which stays. -/
def splitAfterBreaks : List UInt8 → List (List UInt8)
  | [] => []
  | byte :: bytes =>
    if byte == 10 then [byte] :: splitAfterBreaks bytes
    else match splitAfterBreaks bytes with
      | [] => [[byte]]
      | piece :: pieces => (byte :: piece) :: pieces

/-- The pieces of a file that end with a line feed or with the file, up to the first one that is not
UTF-8. -/
def decodePieces : List (List UInt8) → List (List Char)
  | [] => []
  | piece :: pieces =>
    match String.fromUTF8? ⟨piece.toArray⟩ with
    | some text => text.toList :: decodePieces pieces
    | none => []

/-- The pieces without the mark that a file may start with. -/
def dropFileMark : List (List Char) → List (List Char)
  | ('\ufeff' :: cs) :: pieces => if cs.isEmpty then pieces else cs :: pieces
  | pieces => pieces

/-- Drops blanks from the front. -/
def dropBlanks (cs : List Char) : List Char := cs.dropWhile Text.isBlank

/-- Joins pieces into lines, `open_` being the start of one that goes on. A line that is still open
at the end is none. A piece that, with what is open before it, starts with a hash sign is a comment,
and what is open is lost. -/
def joinPieces (open_ : List Char) (state : State) : List (List Char) → List (Option (List Char))
  | [] => if state.isOpen then [none] else []
  | piece :: pieces =>
    if (dropBlanks (open_ ++ piece)).head? == some '#' then joinPieces [] .plain pieces
    else
      let (kept, last) := follow state piece
      match last with
      | none => some (open_ ++ kept) :: joinPieces [] .plain pieces
      | some state =>
        if state.isOpen then joinPieces (open_ ++ piece) state pieces
        else some (open_ ++ piece) :: joinPieces [] .plain pieces

/-! ### Values -/

/-- What a reference to a variable has shown so far. -/
inductive Reference where
  | none
  | bare (name : List Char)
  | braced (name : List Char)
  deriving DecidableEq, Repr

/-- Where a value stands. -/
structure Reading where
  single : Bool
  double : Bool
  escaped : Bool
  finished : Bool
  reference : Reference

/-- The start of a value. -/
def Reading.start : Reading := ⟨false, false, false, false, .none⟩

/-- The character of an escape. -/
def escape? (c : Char) : Option Char :=
  if c == 'n' then some '\n'
  else if c == '\\' || c == '\'' || c == '"' || c == '$' || c == ' ' then some c
  else none

/-- Reads a value, `look` giving the variables that it refers to. -/
def valueFrom (look : List Char → List Char) (r : Reading) : List Char → Option (List Char)
  | [] =>
    match r.reference with
    | .braced _ => none
    | .bare name => if r.single || r.double then none else some (look name)
    | .none => if r.single || r.double then none else some []
  | c :: cs =>
    if r.finished then
      if c == ' ' || c == '\t' then valueFrom look r cs else if c == '#' then some [] else none
    else if r.escaped then do
      return (← escape? c) :: (← valueFrom look { r with escaped := false } cs)
    else if r.single then
      if c == '\'' then valueFrom look { r with single := false } cs
      else (valueFrom look r cs).map (c :: ·)
    else match r.reference with
      | .braced name =>
        if c == '}' then (valueFrom look { r with reference := .none } cs).map (look name ++ ·)
        else valueFrom look { r with reference := .braced (name ++ [c]) } cs
      | .bare name =>
        if Text.isAlphanumeric c then valueFrom look { r with reference := .bare (name ++ [c]) } cs
        else if c == '{' && name.isEmpty then
          valueFrom look { r with reference := .braced [] } cs
        else if c == '$' then
          (valueFrom look { r with reference := .bare [] } cs).map (look name ++ ·)
        else (valueFrom look { r with reference := .none } cs).map (look name ++ c :: ·)
      | .none =>
        if c == '$' then valueFrom look { r with reference := .bare [] } cs
        else if c == '\\' then valueFrom look { r with escaped := true } cs
        else if c == '"' then valueFrom look { r with double := !r.double } cs
        else if r.double then (valueFrom look r cs).map (c :: ·)
        else if c == '\'' then valueFrom look { r with single := true } cs
        else if c == ' ' || c == '\t' then valueFrom look { r with finished := true } cs
        else (valueFrom look r cs).map (c :: ·)

/-! ### Assignments -/

/-- The characters of a name after its first one. -/
def isInner (c : Char) : Bool := c.isAlphanum || c == '_' || c == '.'

/-- The name at the front of a line, and what follows it without blanks. -/
def name? (cs : List Char) : Option (String × List Char) :=
  match cs with
  | c :: _ =>
    if c.isAlpha || c == '_' then
      some (String.ofList (cs.takeWhile isInner), dropBlanks (cs.dropWhile isInner))
    else none
  | [] => none

/-- What follows an equals sign. -/
def afterEquals? : List Char → Option (List Char)
  | '=' :: cs => some cs
  | _ => none

/-- The name and the written value of a line, which may start with `export`. -/
def assignment? (cs : List Char) : Option (String × List Char) := do
  let (name, rest) ← name? cs
  match afterEquals? rest with
  | some value => return (name, dropBlanks value)
  | none =>
    if name == "export" then
      let (name, rest) ← name? rest
      return (name, dropBlanks (← afterEquals? rest))
    else none

/-- Reads lines in order. A variable that is set already keeps its value, and a line that is no
assignment ends the file. `written` holds what the lines so far have written. -/
def load (env written : Table String) : List (Option (List Char)) → Table String
  | [] => env
  | none :: _ => env
  | some line :: lines =>
    let cs := dropBlanks (Text.dropBlankEnd line)
    if cs.isEmpty || cs.head? == some '#' then load env written lines
    else match assignment? cs with
      | none => env
      | some (name, value) =>
        let look (name : List Char) : List Char :=
          let name := String.ofList name
          ((env.get? name <|> written.get? name).getD "").toList
        let read := if value.head? == some '#' then some [] else valueFrom look .start value
        match read with
        | none => env
        | some value =>
          let value := String.ofList value
          let env := if env.contains name then env else env.insert name value
          load env (written.insert name value) lines

/-- The pieces of a file. -/
def pieces (content : ByteArray) : List (List Char) :=
  dropFileMark (decodePieces (splitAfterBreaks content.toList))

/-- The environment with the variables of a file that it does not hold yet. -/
def extend (env : Table String) (content : ByteArray) : Table String :=
  load env Table.empty (joinPieces [] .plain (pieces content))

/-- What stands between braces after each dollar sign. -/
def bracedNames : List Char → List (List Char)
  | '$' :: '{' :: cs => cs.takeWhile (· != '}') :: bracedNames cs
  | _ :: cs => bracedNames cs
  | [] => []

/-- Every name that a file may ask for: what stands between braces, and the longest runs of
characters that other references and the names of variables are made of. -/
def names (content : ByteArray) : List String :=
  let cs := (pieces content).flatten
  let runs (isPart : Char → Bool) : List (List Char) :=
    Text.splitOn ' ' (cs.map fun c => if isPart c then c else ' ')
  (bracedNames cs ++ runs Text.isAlphanumeric ++ runs isInner).map String.ofList

end CommandBot.EnvFile
