import CommandBot.Chat
import CommandBot.Text.Blank
import CommandBot.Text.Cut

/-!
The console as a chat: each line of input is a message, and each line said is printed.
-/

namespace CommandBot.Console

/-- The user of lines that name none. -/
def consoleUser : String := "console"

/-- The message of a line `user: text`. Any other line is a message of the console user. -/
def message (line : String) : ChatMessage :=
  match Text.cut? ": " line with
  | some (user, text) =>
    if user.isEmpty || Text.hasBlank user then ⟨consoleUser, line⟩ else ⟨user, text⟩
  | none => ⟨consoleUser, line⟩

/-- A line as it is printed. -/
def print (line : String) : String := line ++ "\n"

end CommandBot.Console
