import CommandBot.Text.Cut
import CommandBot.Text.Words

/-!
Command lines in chat: the bot's mark, then the name of a command with nothing between them, then
arguments.
-/

namespace CommandBot

/-- A command as a message names it, with its arguments. -/
structure Invocation where
  name : String
  args : List String
  deriving DecidableEq, Repr

namespace Invocation

/-- The words after the mark name a command, unless a blank or nothing follows it. -/
def ofWords? (rest : List Char) : Option Invocation :=
  match rest with
  | [] => none
  | c :: _ =>
    if Text.isBlank c then none
    else match Text.wordsOf rest with
      | [] => none
      | name :: args => some ⟨String.ofList name, args.map String.ofList⟩

/-- The command that a message asks for, if it starts with the mark. -/
def ofMessage? (mark text : String) : Option Invocation :=
  (mark.toList.isPrefixOf? text.toList).bind ofWords?

end Invocation

end CommandBot
