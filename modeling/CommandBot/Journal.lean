import CommandBot.Command
import CommandBot.Error
import CommandBot.Log

/-!
The journal of a run: everything that happens while commands run, in order. The log is a view of it.
-/

namespace CommandBot

/-- A failure as it is told to the operator, by the first of the four places that catch failures. -/
inductive Report where
  | hook (key : String) (error : Error)
  | step (sequence : String) (position : Nat) (error : Error)
  | command (name user : String) (error : Error)
  | listener (trigger : String) (error : Error)

namespace Report

/-- The failure that is told. -/
def error : Report → Error
  | hook _ error | step _ _ error | command _ _ error | listener _ error => error

/-- The wording of a report. -/
def message : Report → String
  | hook key error => s!"Change hook for '{key}' failed: {error.message}"
  | step sequence position error =>
    s!"Sequence '{sequence}' step {position} failed: {error.message}"
  | command name user error => s!"Command '{name}' from {user} failed: {error.message}"
  | listener trigger error => s!"Listener '{trigger}' failed: {error.message}"

end Report

/-- Something that happens while commands run. -/
inductive Event where
  /-- A command starts; the commands that start before it is left are nested in it. -/
  | entered (command : String)
  /-- The command that started last is done. -/
  | left
  /-- A leaf, or the selection of an option, fails. -/
  | failed (error : Error)
  /-- A value is stored under a key, in place of the previous one. -/
  | stored (key : String) (previous : Option String) (value : String)
  /-- The hook of a key starts, for a user and with arguments. -/
  | hookStarted (key user : String) (args : List String)
  /-- The hook of a key is done. -/
  | hookEnded (key : String)
  /-- A file is replaced. -/
  | wrote (path content : String)
  /-- A listener is attached. -/
  | attached (listener : Listener)
  /-- A user is approved. -/
  | approved (user : String)
  /-- A failure is told to the operator. -/
  | reported (report : Report)

/-- What happened, in order. -/
abbrev Journal := List Event

/-- The log record of an event, if it makes one. -/
def Event.record? : Event → Option LogRecord
  | .wrote path content => some ⟨.info, s!"Wrote {content.utf8ByteSize} bytes to {path}"⟩
  | .attached listener =>
    let user := listener.user.getD "anyone"
    some ⟨.info, s!"Added listener (user: {user}, trigger: {listener.trigger})"⟩
  | .approved user => some ⟨.info, s!"Approved user {user}"⟩
  | .reported report => some ⟨.warn, report.message⟩
  | _ => none

/-- The log of a journal. -/
def Journal.log (journal : Journal) : List LogRecord :=
  journal.filterMap Event.record?

end CommandBot
