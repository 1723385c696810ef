import CommandBot.Decimal.Shortest
import CommandBot.Json.Basic

/-!
Compact JSON text: no blanks, entries in their order, and only the escapes that the format needs.
-/

namespace CommandBot.Json

/-- The two lower-case hexadecimal digits of a byte. -/
def hexByte (n : Nat) : List Char :=
  [Nat.digitChar (n / 16 % 16), Nat.digitChar (n % 16)]

/-- One character inside a string: quotes, backslashes and controls below the space are escaped. -/
def escapeChar (c : Char) : List Char :=
  match c with
  | '"' => ['\\', '"']
  | '\\' => ['\\', '\\']
  | '\n' => ['\\', 'n']
  | '\r' => ['\\', 'r']
  | '\t' => ['\\', 't']
  | '\x08' => ['\\', 'b']
  | '\x0c' => ['\\', 'f']
  | c => if c.toNat < 0x20 then '\\' :: 'u' :: '0' :: '0' :: hexByte c.toNat else [c]

/-- A string in quotes. -/
def quote (s : String) : String :=
  String.ofList ('"' :: s.toList.flatMap escapeChar ++ ['"'])

/-- A number as text. -/
def Number.text : Number → String
  | .integer value => toString value
  | .double value => value.text

mutual

/-- A value as compact text. -/
def compact : Json → String
  | .null => "null"
  | .bool true => "true"
  | .bool false => "false"
  | .number value => value.text
  | .string value => quote value
  | .array items => "[" ++ ",".intercalate (compactItems items) ++ "]"
  | .object entries =>
    String.singleton '{' ++ ",".intercalate (compactEntries entries) ++ String.singleton '}'

/-- The items, each as compact text. -/
def compactItems : List Json → List String
  | [] => []
  | item :: items => item.compact :: compactItems items

/-- The entries, each as key, colon and value. -/
def compactEntries : List (String × Json) → List String
  | [] => []
  | (key, value) :: entries => (quote key ++ ":" ++ value.compact) :: compactEntries entries

end

end CommandBot.Json
