import CommandBot.Journal
import CommandBot.Template
import CommandBot.Text.Words
import CommandBot.World

/-!
Running a command. `Command.run` follows the command's tree and takes what a stored value sets off
as a parameter; `Hooks.onStore` is that parameter with change hooks: a run ends because each hook
that starts is disarmed while it runs.
-/

namespace CommandBot

/-- What a run comes to: lines or an error, the world after it, and what happened. -/
structure Outcome where
  result : Except Error (List String)
  world : World
  journal : Journal

namespace Outcome

/-- A run that says these lines and does nothing else. -/
def done (lines : List String) (world : World) : Outcome :=
  ⟨.ok lines, world, []⟩

/-- A leaf that fails, leaving the world alone. -/
def fails (error : Error) (world : World) : Outcome :=
  ⟨.error error, world, [.failed error]⟩

/-- The lines of a run that is not known to succeed. -/
def lines (outcome : Outcome) : List String :=
  match outcome.result with
  | .ok lines => lines
  | .error _ => []

/-- Marks where a command starts and is left. -/
def within (command : String) (outcome : Outcome) : Outcome :=
  { outcome with journal := .entered command :: outcome.journal ++ [.left] }

/-- Stops a failure here and tells it to the operator. -/
def settle (report : Error → Report) (outcome : Outcome) : Outcome :=
  match outcome.result with
  | .ok _ => outcome
  | .error error =>
    { outcome with result := .ok [], journal := outcome.journal ++ [.reported (report error)] }

end Outcome

/-- What storing the arguments under a key comes to. -/
abbrev OnStore := String → List String → World → Outcome

/-- What the steps of a sequence come to: the lines of those that succeed, the failures with their
positions, the world and the journal. -/
structure Progress where
  lines : List String
  failures : List (Nat × Error)
  world : World
  journal : Journal

/-- Puts the outcome of the step at `position` before the progress of the later ones. -/
def Progress.after (outcome : Outcome) (position : Nat) (later : Progress) : Progress where
  lines := outcome.lines ++ later.lines
  failures := match outcome.result with
    | .ok _ => later.failures
    | .error error => (position, error) :: later.failures
  world := later.world
  journal := outcome.journal ++ later.journal

/-- A sequence succeeds whatever its steps do. It tells their failures once all have run. -/
def Progress.finish (sequence : String) (progress : Progress) : Outcome where
  result := .ok progress.lines
  world := progress.world
  journal := progress.journal ++
    progress.failures.map fun (position, error) => .reported (.step sequence position error)

/-- What stands before the name of another bot's command. -/
def echoMark : String := "!"

/-- Says the arguments to another bot. -/
def runEcho (name target : String) (args : List String) (world : World) : Outcome :=
  if target.isEmpty then .fails (.unknownTarget name) world
  else .done [echoMark ++ target ++ " " ++ Text.unwords args] world

/-- Replaces a file by the arguments. -/
def runFile (path : String) (args : List String) (world : World) : Outcome :=
  let content := Text.unwords args
  match world.files.write path content.toUTF8 with
  | .ok files => ⟨.ok [], { world with files }, [.wrote path content]⟩
  | .error cause => .fails (.unwritable path cause) world

/-- Attaches a listener, unless the one from the same place is attached. -/
def runListener (listener : Listener) (world : World) : Outcome :=
  if world.isAttached listener.place then .done [] world
  else ⟨.ok [], world.attach listener, [.attached listener]⟩

mutual

/-- Runs a command with arguments. -/
def Command.run (onStore : OnStore) : Command → List String → World → Outcome
  | ⟨name, _, body⟩, args, world => (body.run onStore name args world).within name

/-- Does what the command called `name` does. -/
def Body.run (onStore : OnStore) (name : String) : Body → List String → World → Outcome
  | .echo target, args, world => runEcho name target args world
  | .shorthand target fixed, _, world => target.run onStore fixed world
  | .sequence steps, args, world => (Step.runAll onStore args 1 steps world).finish name
  | .option branches, args, world =>
    match args with
    | [] => .fails (.noMatchingOption name "") world
    | word :: rest =>
      match Branch.select? branches word with
      | some index => Branch.runAt onStore rest (.noMatchingOption name word) branches index world
      | none => .fails (.noMatchingOption name word) world
  | .state key, args, world => onStore key args world
  | .file path, args, world => runFile path args world
  | .info text, _, world => .done [text] world
  | .format template, _, world => .done [Template.fill template world.store] world
  | .listener listener, _, world => runListener listener world

/-- Runs a step with the caller's arguments. -/
def Step.run (onStore : OnStore) : Step → List String → World → Outcome
  | .reference target leading, args, world => target.run onStore (leading ++ args) world
  | .inline command, args, world => command.run onStore args world

/-- Runs steps one after the other with the same arguments, the first one being at `position`. -/
def Step.runAll (onStore : OnStore) (args : List String) (position : Nat) :
    List Step → World → Progress
  | [], world => ⟨[], [], world, []⟩
  | step :: steps, world =>
    let outcome := step.run onStore args world
    .after outcome position (Step.runAll onStore args (position + 1) steps outcome.world)

/-- Runs the step of the branch at an index; there is nothing to run beyond the last one. -/
def Branch.runAt (onStore : OnStore) (args : List String) (missing : Error) :
    List Branch → Nat → World → Outcome
  | [], _, world => .fails missing world
  | ⟨_, step⟩ :: _, 0, world => step.run onStore args world
  | _ :: branches, index + 1, world => Branch.runAt onStore args missing branches index world

end

/-- Stores the arguments under a key for a user. If the value changes and the key's hook is armed,
the hook's step runs on the new value's words, with the hook disarmed until it is done; its failure
is told and not passed on. -/
def Hooks.onStore (armed : Hooks) (user key : String) (args : List String) (world : World) :
    Outcome :=
  let value := Text.unwords args
  let stored := Event.stored key (world.store.get? key) value
  match h : armed.get? key with
  | none => ⟨.ok [], world.set key value, [stored]⟩
  | some step =>
    if Store.changes world.store key value then
      have : (armed.erase key).size < armed.size := Table.size_erase_lt h
      let words := Text.words value
      let outcome :=
        step.run (Hooks.onStore (armed.erase key) user) words (world.set key value)
      let hooked : Outcome :=
        { outcome with
          journal := stored :: .hookStarted key user words :: outcome.journal ++ [.hookEnded key] }
      hooked.settle (.hook key)
    else ⟨.ok [], world.set key value, [stored]⟩
termination_by armed.size

end CommandBot
