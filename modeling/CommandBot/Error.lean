import CommandBot.ClassTag
import CommandBot.Files
import CommandBot.Shape

/-!
Why a document cannot be loaded or a command cannot run. Errors name their cause; the wording is
given here and nowhere else. Loading errors are fatal, the others end one invocation.
-/

namespace CommandBot

/-- What is wrong with a command document or one of its entries. -/
inductive Malformed where
  | notJson
  | sections (fault : ShapeFault)
  | unreadable (path : String) (cause : FileError)
  | documentNotObject
  | missingKey (key : String)
  | classesNotObject
  | classTarget (name : String)
  | unknownClassName (name : String)
  | commandsShape
  | misnamedCommand (key : String)
  | accessNotList (list : String)
  | neverDeclared (list name : String)
  | accessItem (list : String) (found : Json)
  | listedTwice (name : String)
  | hooksNotObject
  | hookKeyEmpty
  | textsNotList (key : String)
  | textsItem (key : String) (found : Json)
  | stateNotObject
  | stateValue (key : String) (found : Json)
  | nameless
  | declaredTwice (name : String)
  | declarationShape (found : Json)
  | declarationHead (found : Json)
  | unknownClass (head : String)
  | declarationName (head : String)
  | entryShape (found : Json)
  | entryHead (found : Json)
  | optionHead (found : Json)
  | argument (command : String) (found : Json)
  | oneText (tag : ClassTag)
  | shorthandTargetMissing
  | shorthandTarget (found : Json)
  | stateArguments
  | stateKeyMissing
  | listenerArguments
  | listenerShape (command : String) (fault : ShapeFault)
  | triggerEmpty (command : String)

/-- The wording of what is wrong. -/
def Malformed.message : Malformed → String
  | notJson => "command document is not valid JSON"
  | sections fault => s!"invalid command document: {fault.message}"
  | unreadable path cause => s!"failed to read command file {path}: {cause.message}"
  | documentNotObject => "command document must be a JSON object"
  | missingKey key => s!"missing required key '{key}'"
  | classesNotObject => "'classes' must be an object of alias -> class"
  | classTarget name => s!"class alias '{name}' must map to a class name"
  | unknownClassName name => s!"'{name}' is not a command class"
  | commandsShape => "'commands' must be a list or an object of command entries"
  | misnamedCommand key => s!"command '{key}' must be declared as [Class, \"{key}\", ...]"
  | accessNotList list => s!"'{list}' must be a list"
  | neverDeclared list name => s!"'{list}' lists '{name}', which was never declared"
  | accessItem list found =>
    s!"'{list}' items must be names or command entries, got {found.compact}"
  | listedTwice name => s!"command '{name}' is listed as both restricted and public"
  | hooksNotObject => "'on_state_change' must be an object of state key -> command"
  | hookKeyEmpty => "'on_state_change' keys must be non-empty"
  | textsNotList key => s!"'{key}' must be a list of strings"
  | textsItem key found => s!"'{key}' must be a list of strings, got {found.compact}"
  | stateNotObject => "'state' must be an object"
  | stateValue key found => s!"state value for '{key}' must be a string, got {found.compact}"
  | nameless => "cannot register an anonymous command"
  | declaredTwice name => s!"command '{name}' is declared twice"
  | declarationShape found =>
    s!"top-level command must be [Class, name, ...], got {found.compact}"
  | declarationHead found =>
    s!"top-level command must start with a class name, got {found.compact}"
  | unknownClass head => s!"'{head}' is not a command class or alias"
  | declarationName head => s!"top-level {head} entry needs a name as its second element"
  | entryShape found => s!"command entry must be a name or an array, got {found.compact}"
  | entryHead found => s!"command entry must start with a name, got {found.compact}"
  | optionHead found => s!"option must start with a name, got {found.compact}"
  | argument command found => s!"arguments for '{command}' must be strings, got {found.compact}"
  | oneText tag => s!"{tag.name} takes exactly one string argument"
  | shorthandTargetMissing => s!"{ClassTag.shorthand.name} needs the name of the command to alias"
  | shorthandTarget found =>
    s!"{ClassTag.shorthand.name} target must be a command name, got {found.compact}"
  | stateArguments => s!"{ClassTag.state.name} takes at most one state key"
  | stateKeyMissing => s!"anonymous {ClassTag.state.name} needs an explicit state key"
  | listenerArguments => s!"{ClassTag.listener.name} takes one listener object"
  | listenerShape command fault => s!"invalid listener for '{command}': {fault.message}"
  | triggerEmpty command => s!"listener for '{command}' has an empty trigger"

/-- Why a bot cannot be loaded or a command cannot run. -/
inductive Error where
  | malformed (cause : Malformed)
  | unresolvedReference (name : String)
  | noMatchingOption (command selector : String)
  | unknownTarget (command : String)
  | unwritable (path : String) (cause : FileError)

namespace Error

/-- The wording of an error. -/
def message : Error → String
  | malformed cause => s!"malformed configuration: {cause.message}"
  | unresolvedReference name =>
    s!"unresolved reference '{name}': commands must be declared before use"
  | noMatchingOption command selector =>
    s!"no option matching '{selector}' in command '{command}'"
  | unknownTarget command => s!"command '{command}' has no echo target"
  | unwritable path cause => s!"failed to write {path}: {cause.message}"

/-- Errors of loading stop the program; those of an invocation are reported and dropped. -/
def isFatal : Error → Bool
  | malformed _ | unresolvedReference _ => true
  | noMatchingOption .. | unknownTarget _ | unwritable .. => false

end Error

end CommandBot
