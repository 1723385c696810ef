/-!
The classes of commands. A class has one canonical name, the only kind of name that a document's
class alias may stand for.
-/

namespace CommandBot

/-- What a command does, up to its contents. -/
inductive ClassTag where
  | echo
  | shorthand
  | sequence
  | option
  | state
  | file
  | info
  | format
  | listener
  deriving DecidableEq, Repr

namespace ClassTag

/-- Every class, in canonical order. -/
def all : List ClassTag :=
  [echo, shorthand, sequence, option, state, file, info, format, listener]

/-- The canonical name. -/
def name : ClassTag → String
  | echo => "EchoCommand"
  | shorthand => "AliasCommand"
  | sequence => "SequenceCommand"
  | option => "OptionCommand"
  | state => "StateCommand"
  | file => "FileCommand"
  | info => "InfoCommand"
  | format => "FormatCommand"
  | listener => "ListenerCommand"

/-- The class with a canonical name. -/
def ofName? (name : String) : Option ClassTag :=
  all.find? (·.name == name)

theorem ofName?_name (tag : ClassTag) : ofName? tag.name = some tag := by
  cases tag <;> rfl

end ClassTag

end CommandBot
