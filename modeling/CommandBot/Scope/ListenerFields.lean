import CommandBot.Json.Basic
import CommandBot.Shape

/-!
The fields of a listener as a document writes them: an object, or an array of the four fields in
their order. The step that a listener runs is resolved elsewhere; here it only has to be there.
-/

namespace CommandBot

/-- The fields of a listener beside its command. -/
structure ListenerFields where
  trigger : String
  user : Option String
  temporary : Bool

namespace ListenerFields

/-- The fields met so far. -/
structure Draft where
  trigger : Option String
  user : Option String
  temporary : Bool
  hasCommand : Bool

/-- Nothing met yet. -/
def Draft.empty : Draft := ⟨none, none, false, false⟩

/-- Reads a text. -/
def text : Json → Except ShapeFault String
  | .string s => .ok s
  | found => .error (.wrongType found .text)

/-- Reads a text that may be left out by writing null. -/
def optionalText : Json → Except ShapeFault (Option String)
  | .null => .ok none
  | value => some <$> text value

/-- Reads a truth value. -/
def boolean : Json → Except ShapeFault Bool
  | .bool b => .ok b
  | found => .error (.wrongType found .boolean)

/-- Adds a field. Unknown ones are passed over. -/
def Draft.add (draft : Draft) (field : String) (value : Json) : Except ShapeFault Draft :=
  match field with
  | "trigger" => do return { draft with trigger := some (← text value) }
  | "user" => do return { draft with user := ← optionalText value }
  | "temp" => do return { draft with temporary := ← boolean value }
  | "command" => .ok { draft with hasCommand := true }
  | _ => .ok draft

/-- Reads entries in the order in which they are written. -/
def Draft.addAll (draft : Draft) : List (String × Json) → Except ShapeFault Draft
  | [] => .ok draft
  | (field, value) :: entries => do (← draft.add field value).addAll entries

/-- The fields of a draft that lacks none. -/
def Draft.finish (draft : Draft) : Except ShapeFault ListenerFields :=
  match draft.trigger with
  | none => .error (.missingField "trigger")
  | some trigger =>
    if draft.hasCommand then .ok ⟨trigger, draft.user, draft.temporary⟩
    else .error (.missingField "command")

/-- Reads the fields from an array. The two in the middle may be missing at its end. -/
def ofItems : List Json → Except ShapeFault ListenerFields
  | [] => .error (.tooShort 0)
  | trigger :: rest => do
    let trigger ← text trigger
    match rest with
    | [] => .error (.tooShort 3)
    | user :: rest =>
      let user ← optionalText user
      match rest with
      | [] => .error (.tooShort 3)
      | temporary :: rest =>
        let temporary ← boolean temporary
        match rest with
        | [] => .error (.tooShort 3)
        | [_] => .ok ⟨trigger, user, temporary⟩
        | more => .error (.tooLong (more.length + 3))

/-- Reads the fields of a listener. -/
def ofJson : Json → Except ShapeFault ListenerFields
  | .object entries => do (← Draft.empty.addAll entries).finish
  | .array items => ofItems items
  | found => .error (.wrongType found .listener)

end ListenerFields

end CommandBot
