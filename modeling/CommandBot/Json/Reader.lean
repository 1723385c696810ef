import CommandBot.Json.Basic
import CommandBot.Text.Hex

/-!
Reading JSON text. The grammar is the strict one: four blank characters, no control characters and
no lone surrogates in strings, nothing but blanks after the value, at most 127 nested arrays and
objects, and no number beyond the doubles. Each reader returns what is left of the text together
with the fact that it is shorter, and that fact ends the recursion.
-/

namespace CommandBot.Json.Reader

/-- What is left of `cs` after reading something from its front. -/
abbrev Rest (cs : List Char) := { rest : List Char // rest.length < cs.length }

/-- Space, tab, line feed and carriage return. -/
def isSpace (c : Char) : Bool :=
  c == ' ' || c == '\t' || c == '\n' || c == '\r'

/-- Drops blanks from the front. -/
def skipSpace (cs : List Char) : List Char := cs.dropWhile isSpace

theorem length_skipSpace_le (cs : List Char) : (skipSpace cs).length ≤ cs.length :=
  (List.dropWhile_sublist isSpace).length_le

/-- The next character that is not blank. -/
def next? (cs : List Char) : Option (Char × Rest cs) :=
  match h : skipSpace cs with
  | [] => none
  | c :: rest => some (c, ⟨rest, by
      have := length_skipSpace_le cs
      simp only [h, List.length_cons] at this
      omega⟩)

/-! ### Strings -/

/-- A string is written as characters and as four-digit code units. -/
inductive Piece where
  | char (c : Char)
  | unit (value : Nat)

/-- The code unit of four hexadecimal digits. -/
def codeUnit? (a b c d : Char) : Option Nat := Text.numberIn? 16 [a, b, c, d]

/-- The character of a one-letter escape. -/
def shortEscape? : Char → Option Char
  | '"' => some '"'
  | '\\' => some '\\'
  | '/' => some '/'
  | 'b' => some '\x08'
  | 'f' => some '\x0c'
  | 'n' => some '\n'
  | 'r' => some '\r'
  | 't' => some '\t'
  | _ => none

/-- The pieces of a string after its opening quote, and what follows the closing one. -/
def pieces? : List Char → Option (List Piece × List Char)
  | [] => none
  | '"' :: cs => some ([], cs)
  | '\\' :: 'u' :: a :: b :: c :: d :: cs => do
    let unit ← codeUnit? a b c d
    let (more, rest) ← pieces? cs
    return (.unit unit :: more, rest)
  | '\\' :: e :: cs => do
    let c ← shortEscape? e
    let (more, rest) ← pieces? cs
    return (.char c :: more, rest)
  | c :: cs => do
    if c.toNat < 0x20 || c == '\\' then none
    else
      let (more, rest) ← pieces? cs
      return (.char c :: more, rest)

theorem length_pieces?_lt {cs : List Char} {ps : List Piece} {rest : List Char}
    (h : pieces? cs = some (ps, rest)) : rest.length < cs.length := by
  fun_induction pieces? cs generalizing ps with
  | case1 => simp at h
  | case2 cs => simp_all
  | case3 a b c d cs ih =>
    simp only [Option.bind_eq_bind, Option.bind_eq_some_iff] at h
    obtain ⟨unit, _, more, hmore, h⟩ := h
    obtain ⟨rfl, rfl⟩ : _ ∧ _ := by simpa using h
    have := ih hmore
    simp only [List.length_cons]
    omega
  | case4 e cs _ ih =>
    simp only [Option.bind_eq_bind, Option.bind_eq_some_iff] at h
    obtain ⟨c, _, more, hmore, h⟩ := h
    obtain ⟨rfl, rfl⟩ : _ ∧ _ := by simpa using h
    have := ih hmore
    simp only [List.length_cons]
    omega
  | case5 => simp at h
  | case6 c cs _ _ _ _ ih =>
    simp only [Option.bind_eq_bind, Option.bind_eq_some_iff] at h
    obtain ⟨more, hmore, h⟩ := h
    obtain ⟨rfl, rfl⟩ : _ ∧ _ := by simpa using h
    have := ih hmore
    simp only [List.length_cons]
    omega

/-- Code units as characters: a leading surrogate needs the trailing one right after it, and neither
stands alone. -/
def assemble? : List Piece → Option (List Char)
  | [] => some []
  | .char c :: ps => (assemble? ps).map (c :: ·)
  | .unit u :: ps =>
    if u < 0xD800 || 0xDFFF < u then (assemble? ps).map (Char.ofNat u :: ·)
    else if 0xDC00 ≤ u then none
    else match ps with
      | .unit v :: ps =>
        if 0xDC00 ≤ v && v ≤ 0xDFFF then
          (assemble? ps).map (Char.ofNat (0x10000 + (u - 0xD800) * 1024 + (v - 0xDC00)) :: ·)
        else none
      | _ => none

/-- A string after its opening quote. -/
def string (cs : List Char) : Option (String × Rest cs) :=
  match h : pieces? cs with
  | none => none
  | some (ps, rest) => (assemble? ps).map fun s => (String.ofList s, ⟨rest, length_pieces?_lt h⟩)

/-! ### Numbers -/

/-- A number as written: sign, digits before the point, digits after it, exponent. -/
structure Numeral where
  negative : Bool
  whole : List Nat
  fraction : Option (List Nat)
  exponent : Option Int

/-- The decimal digits that `cs` starts with, and the rest. -/
def digits : List Char → List Nat × List Char
  | [] => ([], [])
  | c :: cs =>
    if c.isDigit then
      let (ds, rest) := digits cs
      ((c.toNat - '0'.toNat) :: ds, rest)
    else ([], c :: cs)

/-- The value of decimal digits. -/
def digitsValue (ds : List Nat) : Nat := ds.foldl (fun n d => n * 10 + d) 0

/-- The digits after a point, at least one; nothing if there is no point. -/
def fraction? : List Char → Option (Option (List Nat) × List Char)
  | '.' :: cs =>
    let (ds, rest) := digits cs
    if ds.isEmpty then none else some (some ds, rest)
  | cs => some (none, cs)

/-- The exponent after its letter, at least one digit; nothing if there is no letter. -/
def exponent? (cs : List Char) : Option (Option Int × List Char) :=
  match cs with
  | e :: cs' =>
    if e == 'e' || e == 'E' then
      let (negative, cs') := match cs' with
        | '-' :: r => (true, r)
        | '+' :: r => (false, r)
        | r => (false, r)
      let (ds, rest) := digits cs'
      if ds.isEmpty then none
      else
        let n : Int := digitsValue ds
        some (some (if negative then -n else n), rest)
    else some (none, cs)
  | [] => some (none, [])

/-- A numeral and the rest. A zero before the point stands alone. -/
def numeral? (cs : List Char) : Option (Numeral × List Char) := do
  let (negative, cs) := match cs with
    | '-' :: r => (true, r)
    | r => (false, r)
  let (whole, cs) := digits cs
  match whole with
  | [] | 0 :: _ :: _ => none
  | _ =>
    let (fraction, cs) ← fraction? cs
    let (exponent, cs) ← exponent? cs
    return (⟨negative, whole, fraction, exponent⟩, cs)

/-- Appends digits to a significand while it fits 64 bits. Returns it with the number of digits
taken and the number left. -/
def accumulate (significand taken : Nat) : List Nat → Nat × Nat × Nat
  | [] => (significand, taken, 0)
  | d :: ds =>
    if significand * 10 + d < Nat.pow 2 64 then accumulate (significand * 10 + d) (taken + 1) ds
    else (significand, taken, ds.length + 1)

/-- The number of a numeral: an integer if it is written as one and fits 64 bits, except that minus
zero is a double; else a double, of which only the digits that fit 64 bits count. -/
def Numeral.number? (n : Numeral) : Option Number :=
  let value := digitsValue n.whole
  let isInteger := n.fraction.isNone && n.exponent.isNone
  if isInteger && !n.negative && value < Nat.pow 2 64 then some (.integer value)
  else if isInteger && n.negative && 0 < value && value ≤ Nat.pow 2 63 then some (.integer (-value))
  else
    let (significand, _, dropped) := accumulate 0 0 n.whole
    let (significand, places, _) := accumulate significand 0 (n.fraction.getD [])
    let exponent : Int := dropped - places + n.exponent.getD 0
    (Decimal.Binary64.ofScientific? significand exponent).map fun x =>
      .double { x with negative := n.negative }

/-! ### Values -/

/-- What is left after a literal's remaining letters. -/
def literal? (letters : List Char) (value : Json) (cs : List Char) : Option (Json × List Char) :=
  (letters.isPrefixOf? cs).map fun rest => (value, rest)

/-- A value that is neither an array nor an object, from its first character on. -/
def scalar? (c : Char) (cs : List Char) : Option (Json × List Char) :=
  match c with
  | 'n' => literal? ['u', 'l', 'l'] .null cs
  | 't' => literal? ['r', 'u', 'e'] (.bool true) cs
  | 'f' => literal? ['a', 'l', 's', 'e'] (.bool false) cs
  | '"' => (string cs).map fun (s, rest) => (.string s, rest.val)
  | c => do
    let (n, rest) ← numeral? (c :: cs)
    return (.number (← n.number?), rest)

/-- Keeps a rest that is not longer than what follows the first character. -/
def within? {α : Type} (cs : List Char) (r : α × List Char) : Option (α × Rest cs) :=
  if h : r.2.length < cs.length then some (r.1, ⟨r.2, h⟩) else none

mutual

/-- A value, with `depth` levels of nesting left. -/
def value? (depth : Nat) (cs : List Char) : Option (Json × Rest cs) :=
  match next? cs with
  | none => none
  | some ('[', rest) =>
    if depth == 0 then none
    else match next? rest.val with
      | some (']', rest') => some (.array [], ⟨rest'.val, Nat.lt_trans rest'.2 rest.2⟩)
      | _ => (items? (depth - 1) rest.val).map fun (items, rest') =>
        (.array items, ⟨rest'.val, Nat.lt_trans rest'.2 rest.2⟩)
  | some ('{', rest) =>
    if depth == 0 then none
    else match next? rest.val with
      | some ('}', rest') => some (.object [], ⟨rest'.val, Nat.lt_trans rest'.2 rest.2⟩)
      | _ => (entries? (depth - 1) rest.val).map fun (entries, rest') =>
        (.object entries, ⟨rest'.val, Nat.lt_trans rest'.2 rest.2⟩)
  | some (c, rest) => (scalar? c rest.val).bind (within? cs)
termination_by 2 * cs.length
decreasing_by all_goals have := rest.2; omega

/-- Items up to and with the closing bracket. -/
def items? (depth : Nat) (cs : List Char) : Option (List Json × Rest cs) :=
  match value? depth cs with
  | none => none
  | some (item, rest) =>
    match next? rest.val with
    | some (',', rest') =>
      (items? depth rest'.val).map fun (items, rest'') =>
        (item :: items, ⟨rest''.val, Nat.lt_trans rest''.2 (Nat.lt_trans rest'.2 rest.2)⟩)
    | some (']', rest') => some ([item], ⟨rest'.val, Nat.lt_trans rest'.2 rest.2⟩)
    | _ => none
termination_by 2 * cs.length + 1
decreasing_by
  · omega
  · have := Nat.lt_trans rest'.2 rest.2
    omega

/-- Entries up to and with the closing brace. -/
def entries? (depth : Nat) (cs : List Char) : Option (List (String × Json) × Rest cs) :=
  match next? cs with
  | some ('"', afterQuote) =>
    match string afterQuote.val with
    | none => none
    | some (key, afterKey) =>
      match next? afterKey.val with
      | some (':', afterColon) =>
        have hcolon : afterColon.val.length < cs.length :=
          Nat.lt_trans afterColon.2 (Nat.lt_trans afterKey.2 afterQuote.2)
        match value? depth afterColon.val with
        | none => none
        | some (value, rest) =>
          match next? rest.val with
          | some (',', rest') =>
            have hrest : rest'.val.length < cs.length :=
              Nat.lt_trans rest'.2 (Nat.lt_trans rest.2 hcolon)
            (entries? depth rest'.val).map fun (entries, rest'') =>
              ((key, value) :: entries, ⟨rest''.val, Nat.lt_trans rest''.2 hrest⟩)
          | some ('}', rest') =>
            some ([(key, value)], ⟨rest'.val, Nat.lt_trans rest'.2 (Nat.lt_trans rest.2 hcolon)⟩)
          | _ => none
      | _ => none
  | _ => none
termination_by 2 * cs.length + 1
decreasing_by all_goals omega

end

/-- How many arrays and objects may stand inside one another. -/
def nestingLimit : Nat := 127

end CommandBot.Json.Reader

namespace CommandBot.Json

/-- The value that a text holds, as written. -/
def ofText? (text : String) : Option Json := do
  let (value, rest) ← Reader.value? Reader.nestingLimit text.toList
  if (Reader.skipSpace rest.val).isEmpty then some value else none

end CommandBot.Json
