import CommandBot.Chat
import CommandBot.Session

/-!
The dispatch loop: messages are handled one at a time, and every line of one message is sent before
the next message is read. The loop ends with the messages, or with the first line that the other
side does not take.
-/

namespace CommandBot

/-- How far a loop has come. -/
inductive Phase where
  | idle
  | connected
  | listening
  deriving DecidableEq, Repr

namespace Dispatch

/-- Why a loop stops early. -/
inductive Error where
  | closedBeforeJoinMessage
  | closedWhileSending
  deriving DecidableEq, Repr

/-- The wording of the reason. -/
def Error.message : Error → String
  | closedBeforeJoinMessage => "Transport closed before the join message was sent"
  | closedWhileSending => "Transport closed while sending"

/-- The number of lines that the other side still takes, if there is a limit. -/
abbrev Room := Option Nat

/-- The room left after one more line, if there is room for it. -/
def Room.next? : Room → Option Room
  | none => some none
  | some 0 => none
  | some (n + 1) => some (some n)

/-- What sending comes to: the lines that were taken, and the room left if all of them were. -/
structure Sending where
  taken : List String
  room : Option Room

/-- Sends lines one by one, up to the first one that is not taken. -/
def send (room : Room) : List String → Sending
  | [] => ⟨[], some room⟩
  | line :: lines =>
    match room.next? with
    | none => ⟨[], none⟩
    | some room =>
      let later := send room lines
      ⟨line :: later.taken, later.room⟩

/-- What a loop comes to: the session and the phase at its end, the lines sent, what happened, and
why it stopped early if it did. -/
structure Run where
  session : Session
  phase : Phase
  lines : List String
  journal : Journal
  result : Except Error Unit

/-- Handles messages in order. -/
def listen (room : Room) (session : Session) : List ChatMessage → Run
  | [] => ⟨session, .listening, [], [], .ok ()⟩
  | message :: messages =>
    let reply := session.handle message.user message.text
    let sending := send room reply.lines
    match sending.room with
    | none => ⟨reply.session, .listening, sending.taken, reply.journal, .error .closedWhileSending⟩
    | some room =>
      let later := listen room reply.session messages
      { later with
        lines := sending.taken ++ later.lines
        journal := reply.journal ++ later.journal }

/-- Sends the join message, if there is one, and then handles messages. -/
def run (room : Room) (session : Session) (joinMessage : Option String)
    (messages : List ChatMessage) : Run :=
  let greeting := send room joinMessage.toList
  match greeting.room with
  | none => ⟨session, .connected, greeting.taken, [], .error .closedBeforeJoinMessage⟩
  | some room =>
    let later := listen room session messages
    { later with lines := greeting.taken ++ later.lines }

end Dispatch

end CommandBot
