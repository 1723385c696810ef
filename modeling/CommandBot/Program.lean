import CommandBot.Console
import CommandBot.Dispatch
import CommandBot.Document
import CommandBot.EnvFile
import CommandBot.FileTargets
import CommandBot.Settings

/-!
The program as a function: from the files, the variables, the input and the network that it finds to
what it prints and writes. Settings come first, then the document, the approved users and the
transport; the first failure ends it.
-/

namespace CommandBot.Program

/-- Where the program starts: files and variables. -/
structure Site where
  files : Files
  env : Table String

/-- Why the program fails. -/
inductive Error where
  | settings (error : Settings.Error)
  | commands (path : String) (error : CommandBot.Error)
  | irc (error : Irc.Error)
  | dispatch (error : Dispatch.Error)

/-- The wording of the reason. -/
def Error.message : Error → String
  | settings error => error.message
  | commands path _ => s!"Failed to load commands from {path}"
  | irc error => error.message
  | dispatch error => error.message

/-! ### Before the first message -/

/-- The file of variables that is read first. -/
def envFile : String := ".env"

/-- The variables that are set: those found, and those of the file. -/
def Site.environment (site : Site) : Table String :=
  match site.files.read envFile with
  | .ok content => EnvFile.extend site.env content
  | .error _ => site.env

/-- The settings. -/
def Site.settings (site : Site) : Except Settings.Error Settings :=
  Settings.find site.files site.environment

/-- What a bot is about to talk through. -/
inductive Line where
  | console
  | irc (account : Irc.Account)

/-- A bot that is ready: its settings, its session, and what it is about to talk through. -/
structure Ready where
  settings : Settings
  session : Session
  line : Line

/-- What the transport of the settings needs. -/
def line (settings : Settings) (files : Files) : Except Settings.Error Line :=
  match settings.transport with
  | .console => .ok .console
  | .irc => .irc <$> settings.account files

/-- Makes a loaded bot ready: it takes its mark, users are approved from a file, and the account is
read. -/
def ready (settings : Settings) (files : Files) (bot : Bot) : Except Settings.Error Ready := do
  let users ← settings.approvedUsers files
  let session := (Session.start (bot.withMark settings.mark) files).approveAll users
  return ⟨settings, session, ← line settings files⟩

/-- What comes before the first message: a bot that is ready or a failure, and what was noticed
while the document was loaded. -/
structure Opening where
  result : Except Error Ready
  notices : List Notice

/-- Prepares everything. -/
def Site.opening (site : Site) : Opening :=
  match site.settings with
  | .error error => ⟨.error (.settings error), []⟩
  | .ok settings =>
    let load := Document.loadFile site.files settings.commandsFile
    match load.result with
    | .error error => ⟨.error (.commands settings.commandsFile error), load.notices⟩
    | .ok bot => ⟨(ready settings site.files bot).mapError .settings, load.notices⟩

/-- The session once the client has joined: the owner of the channel is approved. -/
def Ready.joined (ready : Ready) : Session :=
  ready.session.approveAll ready.settings.channelHost?.toList

/-! ### What is looked at -/

/-- The variables that the program asks for, as far as its files are known. -/
def Site.wantedVariables (site : Site) : List String :=
  let inEnvFile := match site.files.read envFile with
    | .ok content => EnvFile.names content
    | .error _ => []
  let inSettings := match site.files.readText (Settings.file site.environment) with
    | .ok text => Interpolation.names text
    | .error _ => []
  Settings.variableNames ++ inEnvFile ++ inSettings

/-- The files that the program asks for, as far as its files and variables are known. Each stage of
the opening may name files of the next. -/
def Site.wantedFiles (site : Site) : List String :=
  let first := [envFile, Settings.file site.environment]
  match site.settings with
  | .error _ => first
  | .ok settings =>
    let named :=
      settings.commandsFile :: settings.approvedUsersFile.toList ++ settings.tokenFile.toList
    match (Document.loadFile site.files settings.commandsFile).result with
    | .error _ => first ++ named
    | .ok bot => first ++ named ++ bot.fileTargets

/-! ### A whole run -/

/-- What the program finds. A server is what it sends from the start to the end of a connection. -/
structure Host where
  site : Site
  input : ByteArray
  server : String → Nat → Option ByteArray

/-- What the program comes to: what it prints, what it writes to a server if it reaches one, and why
it fails if it does. -/
structure Result where
  printed : List String
  wire : Option (List String)
  failure : Option Error

/-- A failure before anything is printed. -/
def Result.fails (error : Error) : Result := ⟨[], none, some error⟩

/-- The failure of a loop, if it stops early. -/
def failure? (run : Dispatch.Run) : Option Error :=
  match run.result with
  | .ok _ => none
  | .error error => some (.dispatch error)

/-- Talks through the console. -/
def Ready.runConsole (ready : Ready) (input : ByteArray) : Result :=
  let messages := (Text.Lines.ofBytes input).lines.map Console.message
  let run := Dispatch.run none ready.session ready.settings.joinMessage messages
  ⟨run.lines.map Console.print, none, failure? run⟩

/-- Talks through IRC. -/
def Ready.runIrc (ready : Ready) (account : Irc.Account) (server : Option ByteArray) : Result :=
  match server with
  | none => .fails (.irc (.unreachable account.host account.port))
  | some bytes =>
    let talk := Irc.converse account (Text.Lines.ofBytes bytes)
    let written := talk.login ++ talk.pongs
    match talk.messages with
    | .error error => ⟨[], some written, some (.irc error)⟩
    | .ok messages =>
      let run := Dispatch.run none ready.joined ready.settings.joinMessage messages
      ⟨[], some (written ++ run.lines.map (Irc.frame account.channel)), failure? run⟩

/-- Runs the program. -/
def run (host : Host) : Result :=
  match host.site.opening.result with
  | .error error => .fails error
  | .ok ready =>
    match ready.line with
    | .console => ready.runConsole host.input
    | .irc account => ready.runIrc account (host.server account.host account.port)

end CommandBot.Program
