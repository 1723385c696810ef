import CommandBot.Command
import CommandBot.Json.Basic
import CommandBot.Load

/-!
What names mean while a document is read: the class names, and the commands declared so far.
-/

namespace CommandBot

/-- Short names for classes. -/
abbrev ClassNames := Table ClassTag

namespace ClassNames

/-- The class that a name means: an alias, or else a canonical name. -/
def lookup? (classes : ClassNames) (name : String) : Option ClassTag :=
  classes.get? name <|> ClassTag.ofName? name

/-- Reads aliases from the entries of an object, in order. -/
def ofEntries (classes : ClassNames) : List (String × Json) → Except Error ClassNames
  | [] => .ok classes
  | (name, .string target) :: entries =>
    match ClassTag.ofName? target with
    | some tag => ofEntries (classes.insert name tag) entries
    | none => .error (.malformed (.unknownClassName target))
  | (name, _) :: _ => .error (.malformed (.classTarget name))

/-- Reads the aliases of a document. -/
def ofJson : Json → Except Error ClassNames
  | .object entries => ofEntries Table.empty entries
  | _ => .error (.malformed .classesNotObject)

end ClassNames

/-- The names that an entry may use. -/
structure Scope where
  classes : ClassNames
  commands : Table Command

namespace Scope

/-- The scope before anything is declared. -/
def ofClasses (classes : ClassNames) : Scope := ⟨classes, Table.empty⟩

/-- The class that a name means. -/
def class? (scope : Scope) (name : String) : Option ClassTag := scope.classes.lookup? name

/-- The command that a name refers to. -/
def reference (scope : Scope) (name : String) : Except Error Command :=
  match scope.commands.get? name with
  | some command => .ok command
  | none => .error (.unresolvedReference name)

/-- Adds a named command. A name is declared once; one that is also a class name is noticed. -/
def register (scope : Scope) (command : Command) : Load Scope :=
  if command.isAnonymous then .fail .nameless
  else if scope.commands.contains command.name then .fail (.declaredTwice command.name)
  else
    ⟨.ok { scope with commands := scope.commands.insert command.name command },
      if (scope.class? command.name).isSome then [.sharesClassName command.name] else []⟩

end Scope

end CommandBot
