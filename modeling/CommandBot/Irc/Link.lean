import CommandBot.Irc

/-!
The connection after the join, where three work side by side. The reader turns lines of the server
into messages for the bot and answers for the writer, the bot says lines to the writer, and the
writer takes answers and lines in whatever order it likes. What passes between two of them waits in
a queue: first in, first out, with a limited number of places.
-/

namespace CommandBot.Irc

/-- The number of places in a queue. -/
def capacity : Nat := 256

/-- Puts one thing more into a queue, if there is a place. -/
def push? {α : Type} (queue : List α) (x : α) : Option (List α) :=
  if queue.length < capacity then some (queue ++ [x]) else none

/-- How the writer is doing. It finishes when nothing can come any more. -/
inductive Writer where
  | running
  | finished
  | failed
  deriving DecidableEq, Repr

/-- A state of the connection.
* The server's lines not yet read, after which the stream ends, and whether the reader goes on.
* The messages in the queue, those the bot has heard, and whether it still has its end of the queue.
* The answers to pings in the queue.
* The lines in the queue, all that the bot has said, and whether it still has its end of the queue.
* How the writer is doing, and what it has written. -/
structure Link where
  unread : List String
  reading : Bool
  inbox : List ChatMessage
  heard : List ChatMessage
  hearing : Bool
  answers : List String
  outbox : List String
  said : List String
  talking : Bool
  writer : Writer
  wire : List String
  deriving DecidableEq, Repr

/-- The connection right after the join. -/
def Link.opened (unread : List String) : Link where
  unread := unread
  reading := true
  inbox := []
  heard := []
  hearing := true
  answers := []
  outbox := []
  said := []
  talking := true
  writer := .running
  wire := []

/-- What one of the three does next. A write may fail. -/
inductive Move where
  | read
  | hear
  | deafen
  | say (text : String)
  | hangUp
  | writeLine (works : Bool)
  | writePong (works : Bool)
  | finish
  deriving DecidableEq, Repr

namespace Link

variable (channel : String)

/-- The reader reads on. It waits for a place in a full queue, and it stops at the end of the stream
or when nobody is at the other end of a queue. -/
def read? (link : Link) : Option Link :=
  match link.unread with
  | [] => some { link with reading := false }
  | line :: unread =>
    match pong? line with
    | some pong =>
      if link.writer = .running then
        (push? link.answers pong).map fun answers => { link with unread, answers }
      else some { link with unread, reading := false }
    | none =>
      match message? channel line with
      | none => some { link with unread }
      | some message =>
        if link.hearing then
          (push? link.inbox message).map fun inbox => { link with unread, inbox }
        else some { link with unread, reading := false }

/-- The writer writes, or fails to and drops its ends of the queues. -/
def write (link : Link) (text : String) (works : Bool) : Link :=
  if works then { link with wire := link.wire ++ [text] }
  else { link with writer := .failed, answers := [], outbox := [] }

/-- One move, if it is possible. -/
def step? (link : Link) : Move → Option Link
  | .read => if link.reading then link.read? channel else none
  | .hear =>
    match link.hearing, link.inbox with
    | true, message :: inbox => some { link with inbox, heard := link.heard ++ [message] }
    | _, _ => none
  | .deafen => if link.hearing then some { link with hearing := false, inbox := [] } else none
  | .say text =>
    if link.talking ∧ link.writer = .running then
      (push? link.outbox text).map fun outbox => { link with outbox, said := link.said ++ [text] }
    else none
  | .hangUp => if link.talking then some { link with talking := false } else none
  | .writeLine works =>
    match link.writer, link.outbox with
    | .running, text :: outbox => some ({ link with outbox }.write (frame channel text) works)
    | _, _ => none
  | .writePong works =>
    match link.writer, link.answers with
    | .running, pong :: answers => some ({ link with answers }.write pong works)
    | _, _ => none
  | .finish =>
    if link.writer = .running ∧ link.reading = false ∧ link.talking = false ∧
        link.answers = [] ∧ link.outbox = [] then
      some { link with writer := .finished }
    else none

/-- A sequence of moves, if each of them is possible. -/
def run? (link : Link) : List Move → Option Link
  | [] => some link
  | move :: moves => (link.step? channel move).bind (run? · moves)

end Link

end CommandBot.Irc
