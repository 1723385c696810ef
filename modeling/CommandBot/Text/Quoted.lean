import CommandBot.Text.Invisible

/-!
Texts in double quotes, as error messages show them: every character either visible or escaped.
-/

namespace CommandBot.Text

/-- A character by its number, in lower-case hexadecimal without leading zeros. -/
def escapeByNumber (c : Char) : List Char :=
  '\\' :: 'u' :: '{' :: (Nat.toDigits 16 c.toNat ++ ['}'])

/-- One character between quotes. -/
def quotedChar (c : Char) : List Char :=
  match c with
  | '"' => ['\\', '"']
  | '\\' => ['\\', '\\']
  | '\n' => ['\\', 'n']
  | '\r' => ['\\', 'r']
  | '\t' => ['\\', 't']
  | '\x00' => ['\\', '0']
  | c => if isInvisible c then escapeByNumber c else [c]

/-- The text in quotes. -/
def quoted (text : String) : String :=
  String.ofList ('"' :: text.toList.flatMap quotedChar ++ ['"'])

end CommandBot.Text
