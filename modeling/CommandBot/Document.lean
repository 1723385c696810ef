import CommandBot.Bot
import CommandBot.Json.Reader
import CommandBot.Scope.Resolve

/-!
Loading a command document, in one pass from top to bottom. The first error ends the load, and no
bot comes of it. A document given as text is also searched for repeated keys, which its value no
longer shows.
-/

namespace CommandBot.Document

/-- The sections whose keys are names, which must not be repeated. -/
def keyedSections : List String := ["commands", "on_state_change"]

/-! ### Repeated keys -/

/-- The first key that occurs again after `seen`. -/
def firstRepeated? (seen : List String) : List (String × Json) → Option String
  | [] => none
  | (key, _) :: entries =>
    if seen.contains key then some key else firstRepeated? (key :: seen) entries

/-- A section is null, a list, or an object with distinct keys. -/
def sectionFault? : Json → Option ShapeFault
  | .null | .array _ => none
  | .object entries => (firstRepeated? [] entries).map .repeatedKey
  | found => some (.wrongType found .entries)

/-- The first fault of the keyed sections in a document's entries, in the order of the text. -/
def firstFault? (seen : List String) : List (String × Json) → Option ShapeFault
  | [] => none
  | (key, value) :: entries =>
    if keyedSections.contains key then
      if seen.contains key then some (.repeatedField key)
      else sectionFault? value <|> firstFault? (key :: seen) entries
    else firstFault? seen entries

/-! ### Sections -/

/-- Declares entries in order. -/
def declareAll (scope : Scope) : List Json → Load Scope
  | [] => pure scope
  | entry :: entries => do
    let (scope, _) ← scope.declare entry
    declareAll scope entries

/-- The name that an entry of the object form carries as its second item. -/
def carriedName? : Json → Option String
  | .array (_ :: .string name :: _) => some name
  | _ => none

/-- Declares the entries of an object, each under the name that it carries. -/
def declareNamed (scope : Scope) : List (String × Json) → Load Scope
  | [] => pure scope
  | (key, entry) :: entries =>
    if carriedName? entry = some key then do
      let (scope, _) ← scope.declare entry
      declareNamed scope entries
    else .fail (.misnamedCommand key)

/-- Declares the commands of a document. -/
def declareCommands (scope : Scope) : Json → Load Scope
  | .array entries => declareAll scope entries
  | .object entries => declareNamed scope entries
  | _ => .fail .commandsShape

/-- Reads items of an access list: names that are declared, and declarations made in place. -/
def listed (scope : Scope) (list : String) : List Json → Load (Scope × List String)
  | [] => pure (scope, [])
  | .string name :: items =>
    if scope.commands.contains name then do
      let (scope, names) ← listed scope list items
      return (scope, name :: names)
    else .fail (.neverDeclared list name)
  | .array entry :: items => do
    let (scope, command) ← scope.declare (.array entry)
    let (scope, names) ← listed scope list items
    return (scope, command.name :: names)
  | found :: _ => .fail (.accessItem list found)

/-- Reads an access list. -/
def accessList (scope : Scope) (list : String) : Json → Load (Scope × List String)
  | .array items => listed scope list items
  | _ => .fail (.accessNotList list)

/-- Resolves the hooks of entries. They are placed behind the declared commands. -/
def hooksFrom (scope : Scope) (hooks : Hooks) : List (String × Json) → Except Error Hooks
  | [] => .ok hooks
  | (key, entry) :: entries =>
    if key.isEmpty then .error (.malformed .hookKeyEmpty)
    else do
      let step ← scope.resolve [scope.commands.size + hooks.size] entry
      hooksFrom scope (hooks.insert key step) entries

/-- Resolves the hooks of a document. Every command may be hooked. -/
def hooks (scope : Scope) : Option Json → Except Error Hooks
  | none => .ok Table.empty
  | some (.object entries) => hooksFrom scope Table.empty entries
  | some _ => .error (.malformed .hooksNotObject)

/-- Reads items that are all texts. -/
def texts (key : String) : List Json → Except Error (List String)
  | [] => .ok []
  | .string text :: items => do return text :: (← texts key items)
  | found :: _ => .error (.malformed (.textsItem key found))

/-- Reads a list of texts. -/
def textList (key : String) : Json → Except Error (List String)
  | .array items => texts key items
  | _ => .error (.malformed (.textsNotList key))

/-- Reads initial values. -/
def valuesFrom (store : Store) : List (String × Json) → Except Error Store
  | [] => .ok store
  | (key, .string value) :: entries => valuesFrom (store.insert key value) entries
  | (key, found) :: _ => .error (.malformed (.stateValue key found))

/-- Reads the initial values of a document. -/
def values : Option Json → Except Error Store
  | none => .ok Table.empty
  | some (.object entries) => valuesFrom Table.empty entries
  | some _ => .error (.malformed .stateNotObject)

/-! ### The whole document -/

/-- The section under a required key. -/
def required (entries : List (String × Json)) (key : String) : Load Json :=
  match Table.find key entries with
  | some value => pure value
  | none => .fail (.missingKey key)

/-- Loads a document from its entries. All required keys are looked for before any is read. -/
def loadEntries (entries : List (String × Json)) : Load Bot := do
  let classes ← required entries "classes"
  let users ← required entries "approved_users"
  let restrictedList ← required entries "restricted"
  let publicList ← required entries "public"
  let declarations ← required entries "commands"
  let classes ← .ofExcept (ClassNames.ofJson classes)
  let scope ← declareCommands (.ofClasses classes) declarations
  let (scope, restricted) ← accessList scope "restricted" restrictedList
  let (scope, unrestricted) ← accessList scope "public" publicList
  match restricted.find? unrestricted.contains with
  | some name => .fail (.listedTwice name)
  | none => pure ()
  let hooks ← .ofExcept (hooks scope (Table.find "on_state_change" entries))
  .tell (if hooks.size = 0 then [] else [.hooked hooks.size])
  let approved ← .ofExcept (textList "approved_users" users)
  let store ← .ofExcept (values (Table.find "state" entries))
  let commands := scope.commands
  let bot : Bot :=
    { commands, restricted, unrestricted, approved, store, hooks, mark := Bot.defaultMark }
  let isListed (name : String) : Bool := bot.isRestricted name || bot.isUnrestricted name
  .tell ((commands.keys.filter fun name => !isListed name).map .unlisted)
  return bot

/-- Loads a document from its value. -/
def load (document : Json) : Load Bot :=
  Load.tellFailure <|
    match document with
    | .object entries => loadEntries entries
    | _ => .fail .documentNotObject

/-- Searches a document as written for repeated keys. -/
def checkRepeated : Json → Load Unit
  | .object entries =>
    match firstFault? [] entries with
    | some fault => Load.tellFailure (.fail (.sections fault))
    | none => pure ()
  | _ => pure ()

/-- Loads a document from its text. -/
def loadText (text : String) : Load Bot :=
  match Json.ofText? text with
  | none => .fail .notJson
  | some written => do
    checkRepeated written
    load written.collapsed

/-- Loads the document in a file. -/
def loadFile (files : Files) (path : String) : Load Bot :=
  match files.readText path with
  | .error cause => .fail (.unreadable path cause)
  | .ok text => do
    let bot ← loadText text
    .tell [.loaded bot.commands.size path]
    return bot

end CommandBot.Document
