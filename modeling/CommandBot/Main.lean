import CommandBot.Talk

/-!
The command line. It takes no arguments: settings, the command document and all else are found in
the working directory and in environment variables. Lines of input are answered one by one as they
come. On IRC, input and output are the two directions of a connection to the server, which a relay
has opened.
-/

namespace CommandBot.Main

/-! ### The site -/

/-- What stands at a place on the disk, if anything does. -/
def entryAt? (place : String) : IO (Option FileEntry) := do
  try
    return some (.file (← IO.FS.readBinFile place))
  catch
    | .inappropriateType .. => return some .directory
    | _ => return none

/-- Adds what stands on the disk along a path. -/
def look (files : Files) (path : String) : IO Files :=
  (Files.places path).foldlM
    (fun files place => do
      return match ← entryAt? place with
        | some entry => files.put place entry
        | none => files)
    files

/-- The variables of these names that are set. No variable has a NUL in its name. -/
def lookUp (names : List String) : IO (Table String) :=
  (names.filter (!·.toList.contains '\x00')).foldlM
    (fun env name => do
      return match ← IO.getEnv name with
        | some value => env.insert name value
        | none => env)
    Table.empty

/-- Looks at what the program asks for. What is found in one round tells what to look for in the
next: the file of variables may name the settings, they name the document, and it names files. -/
def survey : IO Program.Site := do
  let mut site : Program.Site := ⟨.empty, .empty⟩
  for _ in [0:4] do
    let env ← lookUp site.wantedVariables
    let files ← ({ site with env } : Program.Site).wantedFiles.foldlM look site.files
    site := ⟨files, env⟩
  return site

/-! ### Input and output -/

/-- The next line of the input with its end. There is nothing at the end of the input, or if it
cannot be read. -/
def nextLine : IO Text.Lines := do
  let input ← IO.getStdin
  let mut bytes := ByteArray.empty
  repeat
    let next ← try input.read 1 catch _ => pure .empty
    bytes := bytes ++ next
    if next.isEmpty || next.toList == [10] then break
  return .ofBytes bytes

/-- Prints texts as they are. -/
def say (texts : List String) : IO Unit := do
  let out ← IO.getStdout
  texts.forM out.putStr
  out.flush

/-- Tells the operator the records that are shown. -/
def tell (threshold : String) (records : List LogRecord) : IO Unit :=
  (records.filter (·.level.isShown threshold)).forM fun record =>
    IO.eprintln s!"{record.level.name} {record.text}"

/-- Writes the files that a run has written. -/
def keep (journal : Journal) : IO Unit :=
  journal.forM fun
    | .wrote path content => IO.FS.writeFile path content
    | _ => pure ()

/-- Carries out what the program does until it reads on. -/
def carryOut (ready : Program.Ready) (answer : Program.Answer) : IO Unit := do
  keep answer.journal
  tell ready.settings.logLevel answer.journal.log
  say answer.written

/-- Talks to the end of the input: there a piece without a line is read. -/
def talk (ready : Program.Ready) : IO (Option Program.Error) := do
  let mut answer := ready.start
  carryOut ready answer
  let mut input ← nextLine
  while !input.lines.isEmpty do
    for line in input.lines do
      answer := ready.answer answer.talk line
      carryOut ready answer
    input ← nextLine
  return answer.talk.failure? input.broken

end CommandBot.Main

open CommandBot Main in
/-- Runs the bot. The exit code is 1 if it fails, and the reason is printed. -/
def main : IO UInt32 := do
  let site ← survey
  let opening := site.opening
  let threshold := match site.settings with
    | .ok settings => settings.logLevel
    | .error _ => Settings.default.logLevel
  tell threshold (opening.notices.map Notice.record)
  let failure ← match opening.result with
    | .error error => pure (some error)
    | .ok ready => talk ready
  match failure with
  | none => return 0
  | some error =>
    IO.eprintln s!"Error: {error.message}"
    return 1
