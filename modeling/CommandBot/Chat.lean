/-!
Messages in a chat, free of any transport.
-/

namespace CommandBot

/-- One message of a user. -/
structure ChatMessage where
  user : String
  text : String
  deriving DecidableEq, Repr

end CommandBot
