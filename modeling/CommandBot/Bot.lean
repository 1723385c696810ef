import CommandBot.World

/-!
A bot: what a command document says. It does not change while messages are handled.
-/

namespace CommandBot

/-- The commands by name, who may run them, the initial values and users, the change hooks, and the
mark that commands in chat start with. A command that is in neither access list is open to all. -/
structure Bot where
  commands : Table Command
  restricted : List String
  unrestricted : List String
  approved : List String
  store : Store
  hooks : Hooks
  mark : String

namespace Bot

/-- The mark of a bot that sets no other. -/
def defaultMark : String := "!"

/-- Only approved users may run the command in chat. -/
def isRestricted (bot : Bot) (name : String) : Bool := bot.restricted.contains name

/-- The command is listed as open to all. -/
def isUnrestricted (bot : Bot) (name : String) : Bool := bot.unrestricted.contains name

/-- The bot with another mark. -/
def withMark (bot : Bot) (mark : String) : Bot := { bot with mark }

end Bot

end CommandBot
