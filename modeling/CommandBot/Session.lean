import CommandBot.Bot
import CommandBot.Invocation
import CommandBot.Run

/-!
A bot at work: its approved users and its world, and how it handles one message. Lines that the bot
says are the only answer to chat; failures are told to the operator.
-/

namespace CommandBot

/-- A bot with the users that are approved now and the world as it is now. -/
structure Session where
  bot : Bot
  approved : List String
  world : World

/-- What a session comes to: the session after it, the lines said, and what happened. -/
structure Reply where
  session : Session
  lines : List String
  journal : Journal

namespace Session

/-- The start of a session: initial users and values, and no listeners. -/
def start (bot : Bot) (files : Files) : Session :=
  ⟨bot, bot.approved, ⟨bot.store, [], files⟩⟩

/-- The user may run restricted commands. -/
def isApproved (session : Session) (user : String) : Bool := session.approved.contains user

/-- Approves a user. -/
def approve (session : Session) (user : String) : Session :=
  { session with approved := user :: session.approved }

/-- Approves users, one after the other. -/
def approveAll (session : Session) (users : List String) : Session :=
  users.foldl approve session

/-- Runs a command by its name, without asking who may run it. An unknown name does nothing. -/
def invoke (session : Session) (user name : String) (args : List String) : Outcome :=
  match session.bot.commands.get? name with
  | some command =>
    command.run (Hooks.onStore session.bot.hooks user) args session.world
  | none => .done [] session.world

/-- Runs the step of each listener on the words of a message, in order. -/
def fireAll (hooks : Hooks) (user text : String) : List Listener → World → Outcome
  | [], world => .done [] world
  | listener :: listeners, world =>
    let fired := (listener.step.run (Hooks.onStore hooks user) (Text.words text) world).settle
      (.listener listener.trigger)
    let later := fireAll hooks user text listeners fired.world
    ⟨.ok (fired.lines ++ later.lines), later.world, fired.journal ++ later.journal⟩

/-- Offers a message to the listeners. Those that hear it are the ones attached before any of them
runs; the temporary ones among them are detached first. -/
def notify (hooks : Hooks) (user text : String) (world : World) : Outcome :=
  let heard := world.listeners.filter (·.hears user text)
  let kept := world.listeners.filter fun listener =>
    !(listener.temporary && heard.any (·.place == listener.place))
  fireAll hooks user text heard { world with listeners := kept }

/-- What a message asks for, carriage returns left out. -/
def read? (session : Session) (text : String) : Option Invocation :=
  Invocation.ofMessage? session.bot.mark (Text.without '\r' text)

/-- A message is dropped when it asks for a restricted command and its user is not approved. -/
def drops (session : Session) (user text : String) : Bool :=
  match session.read? text with
  | some invocation => session.bot.isRestricted invocation.name && !session.isApproved user
  | none => false

/-- Runs the command that a message asks for, telling its failure to the operator. -/
def dispatch (session : Session) (user text : String) : Outcome :=
  match session.read? text with
  | some ⟨name, args⟩ => (session.invoke user name args).settle (.command name user)
  | none => .done [] session.world

/-- Handles a message: the command that it asks for runs, and then the listeners hear it. A message
that is dropped does nothing at all. -/
def handle (session : Session) (user text : String) : Reply :=
  if session.drops user text then ⟨session, [], []⟩
  else
    let command := session.dispatch user text
    let heard := notify session.bot.hooks user (Text.without '\r' text) command.world
    ⟨{ session with world := heard.world }, command.lines ++ heard.lines,
      command.journal ++ heard.journal⟩

end Session

end CommandBot
