import CommandBot.Bot
import CommandBot.Interpolation
import CommandBot.Irc
import CommandBot.Text.Lowercase
import CommandBot.Yaml.Reader

/-!
Settings of the program: which document it loads, which transport it uses and who it is there. They
come from a YAML file, in which environment variables may stand, or from environment variables
alone.
-/

namespace CommandBot

/-- How a bot reaches its chat. -/
inductive Transport where
  | irc
  | console
  deriving DecidableEq, Repr

/-- Everything that can be set. -/
structure Settings where
  commandsFile : String
  transport : Transport
  ircHost : String
  ircPort : Nat
  nick : Option String
  token : Option String
  tokenFile : Option String
  channel : Option String
  joinMessage : Option String
  approvedUsersFile : Option String
  mark : String
  logLevel : String
  deriving DecidableEq, Repr

namespace Settings

/-- What is not set. -/
def default : Settings where
  commandsFile := "commands.json"
  transport := .irc
  ircHost := "irc.chat.twitch.tv"
  ircPort := 6667
  nick := none
  token := none
  tokenFile := none
  channel := none
  joinMessage := none
  approvedUsersFile := none
  mark := Bot.defaultMark
  logLevel := "info"

/-- Why there are no settings, or why they do not do. -/
inductive Error where
  | unreadable (path : String)
  | missingVariables (names : List String)
  | unparsable (path : String)
  | unknownTransport (name : String)
  | badPort (text : String)
  | commandsFileMissing
  | badMark (mark : String)
  | nickMissing
  | badChannel (channel : String)
  | channelMissing
  | tokenMissing
  | usersUnreadable (path : String)
  | tokenUnreadable (path : String)
  deriving DecidableEq, Repr

/-- The wording of the reason. -/
def Error.message : Error → String
  | unreadable path => s!"Failed to read settings file: {path}"
  | missingVariables names =>
    "Missing environment variables:" ++
      String.join (names.map fun name => s!"\n  - Environment variable '{name}' is not set")
  | unparsable path => s!"Failed to parse settings file: {path}"
  | unknownTransport name => s!"Invalid BOT_TRANSPORT '{name}'. Use: irc, console"
  | badPort text => s!"Invalid BOT_IRC_PORT '{text}'"
  | commandsFileMissing => "commands_file is required"
  | badMark mark => s!"Invalid command_prefix '{mark}': must be non-empty with no whitespace"
  | nickMissing => "nick is required for the irc transport"
  | badChannel channel => s!"Invalid channel '{channel}': expected '#name'"
  | channelMissing => "channel is required for the irc transport"
  | tokenMissing => "token or token_file is required for the irc transport"
  | usersUnreadable path => s!"Failed to read approved users file: {path}"
  | tokenUnreadable path => s!"Failed to read token file: {path}"

/-! ### What settings must hold -/

/-- What the IRC transport needs: a nick, a channel with its hash sign, and a token or its file. -/
def validateIrc (settings : Settings) : Except Error Unit :=
  if (settings.nick.getD "").isEmpty then .error .nickMissing
  else match settings.channel with
    | none => .error .channelMissing
    | some channel =>
      if (Irc.channelHost? channel).isNone then .error (.badChannel channel)
      else if settings.token.isNone && settings.tokenFile.isNone then .error .tokenMissing
      else .ok ()

/-- Settings do if they name a document, their mark is not empty and has no blanks, and the
transport has what it needs. -/
def validate (settings : Settings) : Except Error Unit :=
  if settings.commandsFile.isEmpty then .error .commandsFileMissing
  else if settings.mark.isEmpty || Text.hasBlank settings.mark then .error (.badMark settings.mark)
  else match settings.transport with
    | .irc => settings.validateIrc
    | .console => .ok ()

/-- Settings that do. -/
def validated (settings : Settings) : Except Error Settings := do
  settings.validate
  return settings

/-! ### Settings in a file -/

/-- A text, from a scalar of any kind. -/
def text? : Yaml.Node → Option String
  | .scalar text _ => some text
  | _ => none

/-- A text that may be left out: nothing, or one of the spellings of null without quotes. -/
def optionalText? : Yaml.Node → Option (Option String)
  | .scalar text plain =>
    if plain && ["", "~", "null", "Null", "NULL"].contains text then some none
    else some (some text)
  | _ => none

/-- The number that a plain scalar writes: in hexadecimal, octal or binary after a mark, or in
decimal without leading zeros. One plus sign may stand before it. -/
def number? (text : String) : Option Nat :=
  let digits := match text.toList with
    | '+' :: cs => cs
    | cs => cs
  match digits with
  | '0' :: 'x' :: cs => Text.numberIn? 16 cs
  | '0' :: 'o' :: cs => Text.numberIn? 8 cs
  | '0' :: 'b' :: cs => Text.numberIn? 2 cs
  | '0' :: _ :: _ => none
  | cs => Text.numberIn? 10 cs

/-- A port, from a scalar without quotes. -/
def port? : Yaml.Node → Option Nat
  | .scalar text true => (number? text).filter (· < 65536)
  | _ => none

/-- A transport by its name. -/
def transport? : Yaml.Node → Option Transport
  | .scalar "irc" _ => some .irc
  | .scalar "console" _ => some .console
  | _ => none

/-- The settings with the value of a key. Unknown keys are passed over. -/
def set? (settings : Settings) (key : String) (value : Yaml.Node) : Option Settings :=
  match key with
  | "commands_file" => (text? value).map fun s => { settings with commandsFile := s }
  | "transport" => (transport? value).map fun t => { settings with transport := t }
  | "irc_host" => (text? value).map fun s => { settings with ircHost := s }
  | "irc_port" => (port? value).map fun n => { settings with ircPort := n }
  | "nick" => (optionalText? value).map fun s => { settings with nick := s }
  | "token" => (optionalText? value).map fun s => { settings with token := s }
  | "token_file" => (optionalText? value).map fun s => { settings with tokenFile := s }
  | "channel" => (optionalText? value).map fun s => { settings with channel := s }
  | "join_message" => (optionalText? value).map fun s => { settings with joinMessage := s }
  | "approved_users_file" =>
    (optionalText? value).map fun s => { settings with approvedUsersFile := s }
  | "command_prefix" => (text? value).map fun s => { settings with mark := s }
  | "log_level" => (text? value).map fun s => { settings with logLevel := s }
  | _ => some settings

/-- The keys that mean something, which must not be repeated. -/
def keys : List String :=
  ["commands_file", "transport", "irc_host", "irc_port", "nick", "token", "token_file", "channel",
    "join_message", "approved_users_file", "command_prefix", "log_level"]

/-- Reads entries in order. -/
def setAll? (seen : List String) (settings : Settings) :
    List (Yaml.Node × Yaml.Node) → Option Settings
  | [] => some settings
  | (.scalar key _, value) :: entries =>
    if seen.contains key then none
    else
      let seen := if keys.contains key then key :: seen else seen
      (settings.set? key value).bind fun settings => setAll? seen settings entries
  | _ :: _ => none

/-- The settings that a document holds: a mapping, or nothing. -/
def ofNode? : Yaml.Node → Option Settings
  | .mapping entries => setAll? [] default entries
  | .scalar "" true => some default
  | _ => none

/-- Reads settings from a file. -/
def ofFile (files : Files) (env : Table String) (path : String) : Except Error Settings := do
  let text ← (files.readText path).mapError fun _ => .unreadable path
  let text ← (Interpolation.interpolate env text).mapError .missingVariables
  match (Yaml.document? text).bind ofNode? with
  | some settings => settings.validated
  | none => .error (.unparsable path)

/-! ### Settings in the environment -/

/-- A port as a variable writes it: decimal digits, with or without a plus sign before them. -/
def portVariable (text : String) : Except Error Nat :=
  let digits := match text.toList with
    | '+' :: cs => cs
    | cs => cs
  match (Text.numberIn? 10 digits).filter (· < 65536) with
  | some n => .ok n
  | none => .error (.badPort text)

/-- A transport as a variable writes it, in letters of any case. -/
def transportVariable (text : String) : Except Error Transport :=
  match Text.lowercase text with
  | "irc" => .ok .irc
  | "console" => .ok .console
  | other => .error (.unknownTransport other)

/-- Reads settings from variables. -/
def ofEnvironment (env : Table String) : Except Error Settings := do
  let transport ← match env.get? "BOT_TRANSPORT" with
    | some text => transportVariable text
    | none => .ok default.transport
  let ircPort ← match env.get? "BOT_IRC_PORT" with
    | some text => portVariable text
    | none => .ok default.ircPort
  let settings : Settings :=
    { transport, ircPort
      commandsFile := (env.get? "BOT_COMMANDS_FILE").getD default.commandsFile
      ircHost := (env.get? "BOT_IRC_HOST").getD default.ircHost
      nick := env.get? "BOT_NICK"
      token := env.get? "BOT_TOKEN"
      tokenFile := env.get? "BOT_TOKEN_FILE"
      channel := env.get? "BOT_CHANNEL"
      joinMessage := env.get? "BOT_JOIN_MESSAGE"
      approvedUsersFile := env.get? "BOT_APPROVED_USERS_FILE"
      mark := (env.get? "BOT_COMMAND_PREFIX").getD default.mark
      logLevel := (env.get? "LOG_LEVEL").getD default.logLevel }
  settings.validated

/-! ### Finding and using settings -/

/-- The file that is looked for where no other is named. -/
def defaultFile : String := "bot.yaml"

/-- The variable that names the file. -/
def fileVariable : String := "CONFIG_FILE"

/-- The file that is read if it is there. -/
def file (env : Table String) : String := (env.get? fileVariable).getD defaultFile

/-- The variables that mean something. -/
def variableNames : List String :=
  [fileVariable, "BOT_TRANSPORT", "BOT_IRC_PORT", "BOT_COMMANDS_FILE", "BOT_IRC_HOST", "BOT_NICK",
    "BOT_TOKEN", "BOT_TOKEN_FILE", "BOT_CHANNEL", "BOT_JOIN_MESSAGE", "BOT_APPROVED_USERS_FILE",
    "BOT_COMMAND_PREFIX", "LOG_LEVEL"]

/-- Reads settings from the file that a variable names, from the default file if it is there, or
from the environment. -/
def find (files : Files) (env : Table String) : Except Error Settings :=
  match env.get? fileVariable with
  | some path => ofFile files env path
  | none =>
    if files.hasEntry defaultFile then ofFile files env defaultFile else ofEnvironment env

/-- The owner of the channel. -/
def channelHost? (settings : Settings) : Option String :=
  settings.channel.bind Irc.channelHost?

/-- The users in the file of approved users, one a line, trimmed. -/
def approvedUsers (settings : Settings) (files : Files) : Except Error (List String) :=
  match settings.approvedUsersFile with
  | none => .ok []
  | some path => do
    let text ← (files.readText path).mapError fun _ => .usersUnreadable path
    let lines := (Text.splitOn '\n' text.toList).map fun line => Text.trim (String.ofList line)
    return lines.filter (!·.isEmpty)

/-- The token, or else the trimmed content of its file. -/
def password (settings : Settings) (files : Files) : Except Error String :=
  match settings.token, settings.tokenFile with
  | some token, _ => .ok token
  | none, some path =>
    Text.trim <$> (files.readText path).mapError fun _ => .tokenUnreadable path
  | none, none => .error .tokenMissing

/-- What the IRC client needs to know. -/
def account (settings : Settings) (files : Files) : Except Error Irc.Account := do
  let password ← settings.password files
  match settings.nick, settings.channel with
  | none, _ => .error .nickMissing
  | some _, none => .error .channelMissing
  | some nick, some channel =>
    return ⟨settings.ircHost, settings.ircPort, nick, password, channel⟩

end Settings

end CommandBot
