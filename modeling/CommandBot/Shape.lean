import CommandBot.Json.Printer
import CommandBot.Text.Quoted

/-!
Faults in the shape of a JSON value that is read into a record: a field that is missing or given
twice, a value of the wrong type, a list of the wrong length.
-/

namespace CommandBot

/-- What a reader looked for. -/
inductive Expected where
  | text
  | boolean
  | listener
  | entries
  deriving DecidableEq, Repr

/-- The wording of what was looked for. -/
def Expected.wording : Expected → String
  | text => "a string"
  | boolean => "a boolean"
  | listener => "struct RawListenerSpec"
  | entries => "a list or an object of command entries"

/-- The wording of what was found instead. -/
def Json.wording : Json → String
  | .null => "null"
  | .bool true => "boolean `true`"
  | .bool false => "boolean `false`"
  | .number (.integer n) => s!"integer `{n}`"
  | .number (.double x) => s!"floating point `{x.text}`"
  | .string text => s!"string {Text.quoted text}"
  | .array _ => "sequence"
  | .object _ => "map"

/-- A fault in the shape of a value. -/
inductive ShapeFault where
  | missingField (field : String)
  | repeatedField (field : String)
  | repeatedKey (key : String)
  | wrongType (found : Json) (expected : Expected)
  | tooShort (length : Nat)
  | tooLong (length : Nat)

/-- The wording of a fault. -/
def ShapeFault.message : ShapeFault → String
  | missingField field => s!"missing field `{field}`"
  | repeatedField field => s!"duplicate field `{field}`"
  | repeatedKey key => s!"'{key}' is declared twice"
  | wrongType found expected =>
    s!"invalid type: {found.wording}, expected {expected.wording}"
  | tooShort length =>
    s!"invalid length {length}, expected struct RawListenerSpec with 4 elements"
  | tooLong length => s!"invalid length {length}, expected fewer elements in array"

end CommandBot
