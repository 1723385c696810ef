import CommandBot.Proofs.Command.Canonical
import CommandBot.Proofs.Run.Store
import CommandBot.Proofs.Table

namespace CommandBot

/-- The world with canonical class names in its listeners. -/
def World.canonical (world : World) : World :=
  { world with listeners := world.listeners.map Listener.canonical }

/-- The event with canonical class names in a listener that it attaches. -/
def Event.canonical : Event → Event
  | .attached listener => .attached listener.canonical
  | event => event

/-- The journal with canonical class names. -/
def Journal.canonical (journal : Journal) : Journal := journal.map Event.canonical

/-- The outcome with canonical class names in its world and its journal. -/
def Outcome.canonical (outcome : Outcome) : Outcome :=
  ⟨outcome.result, outcome.world.canonical, outcome.journal.canonical⟩

/-- The progress with canonical class names in its world and its journal. -/
def Progress.canonical (progress : Progress) : Progress :=
  { progress with world := progress.world.canonical, journal := progress.journal.canonical }

/-! ### Worlds -/

@[simp] theorem World.canonical_store (world : World) : world.canonical.store = world.store := rfl

@[simp] theorem World.canonical_files (world : World) : world.canonical.files = world.files := rfl

@[simp] theorem World.canonical_listeners (world : World) :
    world.canonical.listeners = world.listeners.map Listener.canonical := rfl

/-- Storing a value has nothing to do with listeners, so respelling may come before it or after it.
-/
theorem World.set_canonical (world : World) (key value : String) :
    world.canonical.set key value = (world.set key value).canonical := rfl

/-- A respelled listener is attached where the spelled one is. -/
theorem World.attach_canonical (world : World) (listener : Listener) :
    world.canonical.attach listener.canonical = (world.attach listener).canonical := by
  unfold attach canonical
  rw [List.map_append, List.map_singleton]

/-- Listeners are told apart by where they are written, which respelling leaves alone. -/
@[simp] theorem World.isAttached_canonical (world : World) (place : Place) :
    world.canonical.isAttached place = world.isAttached place := by
  unfold isAttached
  rw [canonical_listeners, List.any_map]
  congr 1
  funext listener
  rw [Function.comp_apply, Listener.canonical_place]

/-! ### Journals and outcomes -/

theorem Journal.canonical_append (journal later : Journal) :
    canonical (journal ++ later) = journal.canonical ++ later.canonical :=
  List.map_append

namespace Outcome

@[simp] theorem canonical_world (outcome : Outcome) :
    outcome.canonical.world = outcome.world.canonical := rfl

/-- What a run is inside of is told by names, and these stay. -/
theorem within_canonical (outcome : Outcome) (command : String) :
    outcome.canonical.within command = (outcome.within command).canonical := by
  unfold within canonical
  rw [Journal.canonical_append]
  rfl

/-- A failure is stopped and told in the same words, because no report holds a class name. -/
theorem settle_canonical (outcome : Outcome) (report : Error → Report) :
    outcome.canonical.settle report = (outcome.settle report).canonical := by
  obtain ⟨result, world, journal⟩ := outcome
  cases result with
  | ok lines => rfl
  | error error =>
    unfold settle canonical
    rw [Journal.canonical_append]
    rfl

end Outcome

theorem Progress.after_canonical (outcome : Outcome) (position : Nat) (later : Progress) :
    Progress.after outcome.canonical position later.canonical =
      (Progress.after outcome position later).canonical := by
  unfold after canonical
  rw [Journal.canonical_append]
  rfl

theorem Progress.finish_canonical (progress : Progress) (sequence : String) :
    progress.canonical.finish sequence = (progress.finish sequence).canonical := by
  unfold finish Outcome.canonical
  rw [Journal.canonical_append]
  congr 2
  unfold Journal.canonical
  rw [List.map_map]
  rfl

/-! ### Commands -/

theorem runEcho_canonical (name target : String) (args : List String) (world : World) :
    runEcho name target args world.canonical = (runEcho name target args world).canonical := by
  unfold runEcho
  split
  · rfl
  · rfl

theorem runFile_canonical (path : String) (args : List String) (world : World) :
    runFile path args world.canonical = (runFile path args world).canonical := by
  unfold runFile
  rw [World.canonical_files]
  dsimp only
  split
  · rfl
  · rfl

/-- Attaching a listener is the one thing that a class name gets into. -/
theorem runListener_canonical (listener : Listener) (world : World) :
    runListener listener.canonical world.canonical = (runListener listener world).canonical := by
  unfold runListener
  rw [Listener.canonical_place, World.isAttached_canonical, World.attach_canonical]
  split
  · rfl
  · rfl

/-- Storing values runs alike with canonical class names. -/
def OnStore.Canonical (onStore other : OnStore) : Prop :=
  ∀ key args world, other key args world.canonical = (onStore key args world).canonical

section Commands

variable {onStore other : OnStore}

mutual

/-- Running commutes with putting canonical class names in place of spelled ones, because a run
never looks at the name that an entry spells. By induction over the tree of the command, given that
storing a value commutes. -/
theorem Command.run_canonical (hstore : onStore.Canonical other) :
    ∀ (command : Command) (args : List String) (world : World),
      command.canonical.run other args world.canonical = (command.run onStore args world).canonical
  | ⟨name, classAlias, body⟩, args, world => by
    rw [Command.canonical, Command.run, Command.run, Body.run_canonical hstore name body,
      Outcome.within_canonical]

/-- A leaf either looks at no command or is a listener; a composite passes the induction on. -/
theorem Body.run_canonical (hstore : onStore.Canonical other) (name : String) :
    ∀ (body : Body) (args : List String) (world : World),
      body.canonical.run other name args world.canonical =
        (body.run onStore name args world).canonical
  | .echo target, args, world => runEcho_canonical name target args world
  | .shorthand target fixed, _, world => by
    rw [Body.canonical, Body.run, Body.run, Command.run_canonical hstore target]
  | .sequence steps, args, world => by
    rw [Body.canonical, Body.run, Body.run, Step.runAll_canonical hstore args steps,
      Progress.finish_canonical]
  | .option branches, args, world => by
    rw [Body.canonical]
    cases args with
    | nil => rfl
    | cons word rest =>
      simp only [Body.run, Branch.select?_canonicalAll]
      cases Branch.select? branches word with
      | none => rfl
      | some index => exact Branch.runAt_canonical hstore rest _ branches index world
  | .state key, args, world => hstore key args world
  | .file path, args, world => runFile_canonical path args world
  | .listener listener, _, world => runListener_canonical listener world
  | .info _, _, _ | .format _, _, _ => rfl

theorem Step.run_canonical (hstore : onStore.Canonical other) :
    ∀ (step : Step) (args : List String) (world : World),
      step.canonical.run other args world.canonical = (step.run onStore args world).canonical
  | .reference target leading, args, world => by
    rw [Step.canonical, Step.run, Step.run, Command.run_canonical hstore target]
  | .inline command, args, world => by
    rw [Step.canonical, Step.run, Step.run, Command.run_canonical hstore command]

theorem Step.runAll_canonical (hstore : onStore.Canonical other) (args : List String) :
    ∀ (steps : List Step) (position : Nat) (world : World),
      Step.runAll other args position (Step.canonicalAll steps) world.canonical =
        (Step.runAll onStore args position steps world).canonical
  | [], _, _ => rfl
  | step :: steps, position, world => by
    simp only [Step.canonicalAll, Step.runAll]
    rw [Step.run_canonical hstore step, Outcome.canonical_world,
      Step.runAll_canonical hstore args steps, Progress.after_canonical]

theorem Branch.runAt_canonical (hstore : onStore.Canonical other) (args : List String)
    (missing : Error) : ∀ (branches : List Branch) (index : Nat) (world : World),
      Branch.runAt other args missing (Branch.canonicalAll branches) index world.canonical =
        (Branch.runAt onStore args missing branches index world).canonical
  | [], _, _ => rfl
  | ⟨_, step⟩ :: _, 0, world => by
    rw [Branch.canonicalAll, Branch.runAt, Branch.runAt, Step.run_canonical hstore step]
  | ⟨_, _⟩ :: branches, index + 1, world => by
    rw [Branch.canonicalAll, Branch.runAt, Branch.runAt,
      Branch.runAt_canonical hstore args missing branches]

end

end Commands

/-! ### Hooks -/

namespace Hooks

/-- The hooks with canonical class names. -/
def canonical (hooks : Hooks) : Hooks := hooks.map Step.canonical

/-- The same values start hooks, and of the same keys. -/
theorem fired?_canonical (armed : Hooks) (store : Store) (key value : String) :
    armed.canonical.fired? store key value =
      (armed.fired? store key value).map Step.canonical := by
  unfold fired? canonical
  rw [Table.get?_map]
  split
  · rfl
  · rfl

/-- What is noted around a hook holds no class name. -/
theorem around_canonical (user key : String) (previous : Option String) (value : String)
    (outcome : Outcome) :
    around user key previous value outcome.canonical =
      (around user key previous value outcome).canonical := by
  unfold around
  rw [← Outcome.settle_canonical]
  congr 1
  unfold Outcome.canonical
  rw [Journal.canonical_append]
  rfl

/-- By induction over the armed hooks: each one that starts is disarmed while it runs. -/
theorem onStore_canonical (armed : Hooks) (user : String) :
    OnStore.Canonical (armed.onStore user) (armed.canonical.onStore user) := by
  induction armed using disarm_induction with
  | h armed ih =>
    intro key args world
    rw [onStore_eq, onStore_eq]
    dsimp only
    rw [World.canonical_store, fired?_canonical]
    cases hfired : armed.fired? world.store key (Text.unwords args) with
    | none => rfl
    | some step =>
      obtain ⟨_, hget⟩ := fired?_eq_some hfired
      have herased : armed.canonical.erase key = Hooks.canonical (armed.erase key) :=
        (Table.map_erase Step.canonical armed key).symm
      dsimp only [Option.map_some]
      rw [herased, World.set_canonical, Step.run_canonical (ih key step hget) step,
        around_canonical]

end Hooks

end CommandBot
