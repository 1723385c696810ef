import CommandBot.Chat
import CommandBot.Text.Cut
import CommandBot.Text.Lines
import CommandBot.Text.Words

/-!
One channel of an IRC server as a chat. The client logs in, waits for the end of the channel's list
of names, and from then on turns lines of the server into messages. Pings are answered throughout.
-/

namespace CommandBot.Irc

/-- The name of a channel's owner: what stands after the hash sign. -/
def channelHost? (channel : String) : Option String :=
  (Text.after? "#" channel).filter (!·.isEmpty)

/-! ### Lines -/

/-- What comes after the tags that a line may start with. A line that is tags only has nothing after
them. -/
def afterTags? (cs : List Char) : Option (List Char) :=
  match cs with
  | '@' :: tagged => (Text.splitAt? [' '] tagged).map (·.2)
  | _ => some cs

/-- Drops line ends. -/
def dropLineEnd (cs : List Char) : List Char :=
  (cs.reverse.dropWhile fun c => c == '\r' || c == '\n').reverse

/-- What the text of a message for a channel follows. -/
def header (channel : String) : String := "PRIVMSG " ++ channel ++ " :"

/-- The chat message of a line, if it is one for this channel. -/
def message? (channel line : String) : Option ChatMessage := do
  let cs ← afterTags? (dropLineEnd line.toList)
  let sourced ← [':'].isPrefixOf? cs
  let (source, rest) ← Text.splitAt? [' '] sourced
  let user := source.takeWhile (· != '!')
  if user.isEmpty then none
  else
    let text ← (header channel).toList.isPrefixOf? rest
    return ⟨String.ofList user, String.ofList text⟩

/-- The answer to a ping. -/
def pong? (line : String) : Option String :=
  (Text.after? "PING " (Text.trimEnd line)).map fun server => "PONG " ++ server ++ "\r\n"

/-- The line ends the list of names, which confirms that the client is in the channel. -/
def isEndOfNames (line : String) : Bool :=
  match Text.wordsOf ((afterTags? line.toList).getD []) with
  | source :: numeric :: _ => source.head? == some ':' && numeric == "366".toList
  | _ => false

/-- A text with a space for each character of a line end, so that it stays one line. -/
def unbroken (text : String) : String :=
  String.ofList (text.toList.map fun c => if c == '\r' || c == '\n' then ' ' else c)

/-- A line said, framed for the server. -/
def frame (channel text : String) : String :=
  header channel ++ unbroken text ++ "\r\n"

/-! ### The session -/

/-- What the client needs to know. -/
structure Account where
  host : String
  port : Nat
  nick : String
  password : String
  channel : String
  deriving DecidableEq, Repr

/-- What the client writes before it reads anything. -/
def Account.login (account : Account) : List String :=
  ["PASS " ++ account.password ++ "\r\n", "NICK " ++ account.nick ++ "\r\n",
    "JOIN " ++ account.channel ++ "\r\n"]

/-- Why there is no connection. -/
inductive Error where
  | unreachable (host : String) (port : Nat)
  | unreadable
  | closedBeforeJoin
  deriving DecidableEq, Repr

/-- The wording of the reason. -/
def Error.message : Error → String
  | unreachable host port => s!"Failed to connect to {host}:{port}"
  | unreadable => "Failed to read from IRC server"
  | closedBeforeJoin => "IRC server closed the connection before the join completed"

/-- What waiting for the join comes to: the pings answered, and the lines after the one that
confirms it, if there is one. -/
structure Join where
  pongs : List String
  rest : Option (List String)

/-- Reads lines until the join is confirmed. -/
def awaitJoin : List String → Join
  | [] => ⟨[], none⟩
  | line :: lines =>
    match pong? line with
    | some pong =>
      let join := awaitJoin lines
      ⟨pong :: join.pongs, join.rest⟩
    | none => if isEndOfNames line then ⟨[], some lines⟩ else awaitJoin lines

/-- The pings answered among lines. -/
def pongs (lines : List String) : List String := lines.filterMap pong?

/-- The messages among lines that are no pings. -/
def messages (channel : String) (lines : List String) : List ChatMessage :=
  (lines.filter fun line => (pong? line).isNone).filterMap (message? channel)

/-- What a server's lines come to: what the client writes by itself, and the messages that it
delivers or the reason why there are none. -/
structure Conversation where
  login : List String
  pongs : List String
  messages : Except Error (List ChatMessage)

/-- Follows a server to the end of what it sends. -/
def converse (account : Account) (server : Text.Lines) : Conversation :=
  let join := awaitJoin server.lines
  match join.rest with
  | none =>
    ⟨account.login, join.pongs, .error (if server.broken then .unreadable else .closedBeforeJoin)⟩
  | some lines =>
    ⟨account.login, join.pongs ++ pongs lines, .ok (messages account.channel lines)⟩

end CommandBot.Irc
