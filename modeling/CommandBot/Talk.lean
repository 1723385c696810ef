import CommandBot.Program

/-!
The program while it talks. Input comes line by line, and what a line brings about is written before
the next line is read.
-/

namespace CommandBot

/-- A chat as input and output see it: how a line is said, what is written back to a line of input
by itself, and the message in it. -/
structure Chat where
  frame : String → String
  reply? : String → Option String
  message? : String → Option ChatMessage

namespace Chat

/-- The console: each line of input is a message. -/
def console : Chat where
  frame := Console.print
  reply? _ := none
  message? line := some (Console.message line)

/-- A channel of a server: a ping is answered, and any other line may be a message. -/
def channel (name : String) : Chat where
  frame := Irc.frame name
  reply? := Irc.pong?
  message? line := if (Irc.pong? line).isNone then Irc.message? name line else none

end Chat

/-- What the program does with the next line of input: it waits for the server to confirm the join,
or attends a chat. -/
inductive Talk where
  | joining (account : Irc.Account)
  | attending (chat : Chat) (session : Session)

/-- Why the program fails if the input ends here, with or without a line that cannot be read. -/
def Talk.failure? (broken : Bool) : Talk → Option Program.Error
  | joining _ => some (.irc (if broken then .unreadable else .closedBeforeJoin))
  | attending .. => none

namespace Program

/-- What the program does until it reads on: where it stands then, the texts written, in order, and
what happened. -/
structure Answer where
  talk : Talk
  written : List String
  journal : Journal

/-- Some texts are written, and then what a run of the dispatch loop says, framed for its chat. -/
def Answer.ofRun (chat : Chat) (replies : List String) (run : Dispatch.Run) : Answer :=
  ⟨.attending chat run.session, replies ++ run.lines.map chat.frame, run.journal⟩

namespace Ready

/-- Enters a chat: the join message is sent. -/
def enter (ready : Ready) (chat : Chat) (session : Session) : Answer :=
  .ofRun chat [] (Dispatch.run none session ready.settings.joinMessage [])

/-- What the program does before it reads anything. -/
def start (ready : Ready) : Answer :=
  match ready.line with
  | .console => ready.enter .console ready.session
  | .irc account => ⟨.joining account, account.login, []⟩

/-- What a line of input brings about. -/
def answer (ready : Ready) : Talk → String → Answer
  | .joining account, line =>
    let join := Irc.awaitJoin [line]
    match join.rest with
    | some _ => ready.enter (.channel account.channel) ready.joined
    | none => ⟨.joining account, join.pongs, []⟩
  | .attending chat session, line =>
    .ofRun chat (chat.reply? line).toList
      (Dispatch.listen none session (chat.message? line).toList)

end Ready

end Program

end CommandBot
