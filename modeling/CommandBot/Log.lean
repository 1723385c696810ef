/-!
Log records: what the library reports to its operator.
-/

namespace CommandBot

/-- How serious a record is. -/
inductive Level where
  | error
  | warn
  | info
  deriving DecidableEq, Repr

/-- The level as records name it. -/
def Level.name : Level → String
  | .error => "ERROR"
  | .warn => "WARN"
  | .info => "INFO"

/-- A record of this level is shown at a threshold, which names the least serious level to show;
`off` shows nothing, and levels below `info` show all there is. -/
def Level.isShown (threshold : String) : Level → Bool
  | .error => threshold != "off"
  | .warn => !(["off", "error"].contains threshold)
  | .info => !(["off", "error", "warn"].contains threshold)

/-- One record. -/
structure LogRecord where
  level : Level
  text : String
  deriving DecidableEq, Repr

end CommandBot
