import CommandBot.ClassTag
import CommandBot.Table
import CommandBot.Text.Cut
import CommandBot.Text.Count

/-!
Commands: trees of leaves, which act on the chat, the store, a file or the listeners, and of
composites, which only decide what runs with which arguments. A reference holds the command that it
refers to, so a command is complete in itself and the tree has no cycle.
-/

namespace CommandBot

/-- Where a command is written in its document: the number of its declaration, then its position
inside each command around it, innermost first. No two commands of a document share a place. -/
abbrev Place := List Nat

mutual

/-- A command with its name (empty if it has none) and the class name that its entry spells. -/
structure Command where
  name : String
  classAlias : String
  body : Body

/-- What a command does. -/
inductive Body where
  /-- Says the arguments to another bot, as its command `target`. -/
  | echo (target : String)
  /-- Runs `target` with these arguments, whatever the caller gave. -/
  | shorthand (target : Command) (fixed : List String)
  /-- Runs every step with the caller's arguments. -/
  | sequence (steps : List Step)
  /-- Runs the branch that the first argument selects, with the others. -/
  | option (branches : List Branch)
  /-- Stores the arguments under a key. -/
  | state (key : String)
  /-- Writes the arguments to a file. -/
  | file (path : String)
  /-- Says a fixed text. -/
  | info (text : String)
  /-- Says a text with stored values filled in. -/
  | format (template : String)
  /-- Attaches a listener. -/
  | listener (listener : Listener)

/-- A command inside another one. -/
inductive Step where
  /-- A named command, with arguments that go before the caller's. -/
  | reference (target : Command) (leading : List String)
  /-- A command without a name, written in place. -/
  | inline (command : Command)

/-- A step of an option with the selector it answers to, if that is given. -/
structure Branch where
  selector : Option String
  step : Step

/-- A step that runs when a message contains the trigger: a message of one user, or of anyone. A
temporary listener is detached when it fires. -/
structure Listener where
  place : Place
  trigger : String
  user : Option String
  temporary : Bool
  step : Step

end

/-- The step that runs when the value under a key changes. -/
abbrev Hooks := Table Step

/-- The class that a body belongs to. -/
def Body.classTag : Body → ClassTag
  | .echo _ => .echo
  | .shorthand .. => .shorthand
  | .sequence _ => .sequence
  | .option _ => .option
  | .state _ => .state
  | .file _ => .file
  | .info _ => .info
  | .format _ => .format
  | .listener _ => .listener

namespace Command

/-- The class that a command belongs to. -/
def classTag (command : Command) : ClassTag := command.body.classTag

/-- A command without a name is written in place and cannot be referred to. -/
def isAnonymous (command : Command) : Bool := command.name.isEmpty

end Command

/-- The name of the command that a step refers to. -/
def Step.targetName? : Step → Option String
  | .reference target _ => some target.name
  | .inline _ => none

namespace Branch

/-- The word that selects a branch: its selector, or else the name that its step refers to. A branch
with an inline step and no selector has none. -/
def word? (branch : Branch) : Option String :=
  branch.selector <|> branch.step.targetName?

/-- The position that a word writes: decimal digits, with or without a plus sign before them. -/
def position? (word : String) : Option Nat :=
  match word.toList with
  | '+' :: digits => Text.count? digits
  | digits => Text.count? digits

/-- The branch that a word selects: the first one that answers to it, or else the one at the
position that it writes, counted from 1. -/
def select? (branches : List Branch) (word : String) : Option Nat :=
  branches.findIdx? (·.word? == some word) <|>
    match position? word with
    | some (n + 1) => if n < branches.length then some n else none
    | _ => none

end Branch

/-- A message reaches a listener when it comes from the listener's user and contains its trigger. -/
def Listener.hears (listener : Listener) (user text : String) : Bool :=
  listener.user.all (· == user) && Text.contains text listener.trigger

end CommandBot
