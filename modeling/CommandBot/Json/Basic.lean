import CommandBot.Decimal.Binary64
import CommandBot.Table

/-!
JSON documents as syntax trees. An object keeps its entries as they were written, repeated keys
included; `Json.collapsed` is the reading in which a repeated key keeps its first place and takes
its last value.
-/

namespace CommandBot

/-- Numbers are integers while they fit 64 bits and doubles beyond. -/
inductive Json.Number where
  | integer (value : Int)
  | double (value : Decimal.Binary64)
  deriving DecidableEq, Repr

/-- A JSON value. -/
inductive Json where
  | null
  | bool (value : Bool)
  | number (value : Json.Number)
  | string (value : String)
  | array (items : List Json)
  | object (entries : List (String × Json))

instance : Inhabited Json := ⟨.null⟩

namespace Json

mutual

/-- The value with each object reduced to distinct keys, at every depth. -/
def collapsed : Json → Json
  | .array items => .array (collapsedItems items)
  | .object entries => .object (Table.ofList (collapsedEntries entries)).entries
  | scalar => scalar

/-- The items, each collapsed. -/
def collapsedItems : List Json → List Json
  | [] => []
  | item :: items => item.collapsed :: collapsedItems items

/-- The entries, each value collapsed. -/
def collapsedEntries : List (String × Json) → List (String × Json)
  | [] => []
  | (key, value) :: entries => (key, value.collapsed) :: collapsedEntries entries

end

theorem collapsedEntries_eq_map (entries : List (String × Json)) :
    collapsedEntries entries = entries.map fun entry => (entry.1, entry.2.collapsed) := by
  induction entries with
  | nil => rfl
  | cons entry entries ih =>
    obtain ⟨key, value⟩ := entry
    rw [collapsedEntries, ih, List.map_cons]

/-- The items, if the value is an array. -/
def items? : Json → Option (List Json)
  | .array items => some items
  | _ => none

/-- The entries, if the value is an object. -/
def entries? : Json → Option (List (String × Json))
  | .object entries => some entries
  | _ => none

end Json

end CommandBot
