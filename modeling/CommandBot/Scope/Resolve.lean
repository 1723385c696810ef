import CommandBot.Scope.Basic
import CommandBot.Scope.ListenerFields
import CommandBot.Text.Words

/-!
Resolving entries. An entry is a name, an array that starts with the name of a command and goes on
with arguments, or an array that starts with a class name and builds a command in place. A class
name wins over a command of the same name. Names must be declared before they are used.
-/

namespace CommandBot

/-- Reads arguments, which are all texts. -/
def argumentTexts (command : String) : List Json → Except Error (List String)
  | [] => .ok []
  | .string arg :: args => do return arg :: (← argumentTexts command args)
  | found :: _ => .error (.malformed (.argument command found))

/-- Reads the one text that a class of leaves takes. -/
def oneText (tag : ClassTag) : List Json → Except Error String
  | [.string text] => .ok text
  | _ => .error (.malformed (.oneText tag))

/-- How the arguments of a composite resolve: as steps, as branches of an option, and as what a
listener runs. Only the reading that the class asks for is made. -/
structure Parts where
  steps : Unit → Except Error (List Step)
  branches : Unit → Except Error (List Branch)
  listened : Unit → Except Error Step

namespace Scope

/-- Reads an alias: the command it stands for and the words of its arguments. -/
def shorthandBody (scope : Scope) : List Json → Except Error Body
  | [] => .error (.malformed .shorthandTargetMissing)
  | .string target :: rest => do
    let args ← argumentTexts target rest
    return .shorthand (← scope.reference target) (args.flatMap Text.words)
  | found :: _ => .error (.malformed (.shorthandTarget found))

/-- Reads a state command, whose key is its name unless it gives another one. -/
def stateBody (name : String) (args : List Json) : Except Error Body := do
  let key ← match args with
    | [] => .ok name
    | [.string key] => .ok key
    | _ => .error (.malformed .stateArguments)
  if key.isEmpty then .error (.malformed .stateKeyMissing) else .ok (.state key)

/-- Reads a listener command, given how its command resolves. -/
def listenerBody (place : Place) (name : String) (args : List Json)
    (listened : Unit → Except Error Step) : Except Error Body :=
  match args with
  | [value] =>
    match ListenerFields.ofJson value with
    | .error fault => .error (.malformed (.listenerShape name fault))
    | .ok fields =>
      if fields.trigger.isEmpty then .error (.malformed (.triggerEmpty name))
      else do
        return .listener ⟨place, fields.trigger, fields.user, fields.temporary, ← listened ()⟩
  | _ => .error (.malformed .listenerArguments)

/-- Builds the contents of a command from its arguments. -/
def body (scope : Scope) (place : Place) (tag : ClassTag) (name : String) (args : List Json)
    (parts : Parts) : Except Error Body :=
  match tag with
  | .echo => .echo <$> oneText tag args
  | .shorthand => scope.shorthandBody args
  | .sequence => .sequence <$> parts.steps ()
  | .option => .option <$> parts.branches ()
  | .state => stateBody name args
  | .file => .file <$> oneText tag args
  | .info => .info <$> oneText tag args
  | .format => .format <$> oneText tag args
  | .listener => listenerBody place name args parts.listened

mutual

/-- Resolves an entry that stands at a place. -/
def resolve (scope : Scope) (place : Place) : Json → Except Error Step
  | .string name => do return .reference (← scope.reference name) []
  | .array items => scope.resolveItems place items
  | found => .error (.malformed (.entryShape found))

/-- Resolves an entry that is an array of these items. -/
def resolveItems (scope : Scope) (place : Place) : List Json → Except Error Step
  | .string head :: args =>
    match scope.class? head with
    | some tag => do
      let body ← scope.body place tag "" args
        ⟨fun _ => scope.resolveSteps place 0 args, fun _ => scope.resolveBranches place 0 args,
          fun _ => scope.resolveListened place args⟩
      return .inline ⟨"", head, body⟩
    | none => do return .reference (← scope.reference head) (← argumentTexts head args)
  | items => .error (.malformed (.entryHead (.array items)))

/-- Resolves entries from a position on, each at its own place. -/
def resolveSteps (scope : Scope) (place : Place) (position : Nat) :
    List Json → Except Error (List Step)
  | [] => .ok []
  | entry :: entries => do
    let step ← scope.resolve (position :: place) entry
    return step :: (← scope.resolveSteps place (position + 1) entries)

/-- Resolves branches from a position on, each at its own place. -/
def resolveBranches (scope : Scope) (place : Place) (position : Nat) :
    List Json → Except Error (List Branch)
  | [] => .ok []
  | entry :: entries => do
    let branch ← scope.resolveBranch (position :: place) entry
    return branch :: (← scope.resolveBranches place (position + 1) entries)

/-- Resolves a branch of an option. An array whose first name means nothing yet is a selector with
an entry after it. -/
def resolveBranch (scope : Scope) (place : Place) : Json → Except Error Branch
  | .array items =>
    let whole := scope.resolveItems place items
    match items with
    | .string head :: rest =>
      if (scope.class? head).isSome || scope.commands.contains head then
        do return ⟨none, ← whole⟩
      else
        match rest with
        | [] => .error (.unresolvedReference head)
        | [entry] => do return ⟨some head, ← scope.resolve place entry⟩
        | rest => do return ⟨some head, ← scope.resolveItems place rest⟩
    | _ => .error (.malformed (.optionHead (.array items)))
  | .string name => do return ⟨none, .reference (← scope.reference name) []⟩
  | found => .error (.malformed (.entryShape found))

/-- Resolves what a listener runs, its fields being known to be there. -/
def resolveListened (scope : Scope) (place : Place) : List Json → Except Error Step
  | [.object entries] => scope.resolveField place entries
  | [.array (_ :: _ :: _ :: command :: _)] => scope.resolve (0 :: place) command
  | _ => .error (.malformed .listenerArguments)

/-- Resolves the command among the fields of a listener. -/
def resolveField (scope : Scope) (place : Place) : List (String × Json) → Except Error Step
  | [] => .error (.malformed .listenerArguments)
  | (field, value) :: entries =>
    if field = "command" then scope.resolve (0 :: place) value
    else scope.resolveField place entries

end

/-- Builds the command that a class name and its arguments write. -/
def construct (scope : Scope) (place : Place) (tag : ClassTag) (classAlias name : String)
    (args : List Json) : Except Error Command := do
  let body ← scope.body place tag name args
    ⟨fun _ => scope.resolveSteps place 0 args, fun _ => scope.resolveBranches place 0 args,
      fun _ => scope.resolveListened place args⟩
  return ⟨name, classAlias, body⟩

/-- Reads a declaration `[class, name, …]`: the command it writes, placed by its number. -/
def declared (scope : Scope) : Json → Except Error Command
  | .array (.string head :: rest) =>
    match scope.class? head with
    | none => .error (.malformed (.unknownClass head))
    | some tag =>
      match rest with
      | .string name :: args =>
        if name.isEmpty then .error (.malformed (.declarationName head))
        else scope.construct [scope.commands.size] tag head name args
      | _ => .error (.malformed (.declarationName head))
  | .array items => .error (.malformed (.declarationHead (.array items)))
  | found => .error (.malformed (.declarationShape found))

/-- Reads and registers a declaration. -/
def declare (scope : Scope) (entry : Json) : Load (Scope × Command) := do
  let command ← Load.ofExcept (scope.declared entry)
  let scope ← scope.register command
  return (scope, command)

end Scope

end CommandBot
