import CommandBot.Proofs.Command.Height
import CommandBot.Proofs.Command.Leaves
import CommandBot.Run

namespace CommandBot

/-- What a run may do: the number of commands that may run inside one another, the world before it,
what happens, and the world after it. A composite only puts runs one after the other, inside a
command, and notes how they went; so an effect that every leaf has, and that is kept when runs are
put together, is an effect of the command. -/
abbrev Effect := Nat → World → Journal → World → Prop

/-- Failures are noted where they arise and where they are told. Neither changes anything. -/
def Event.isNote : Event → Bool
  | .failed _ | .reported _ => true
  | _ => false

theorem Outcome.settle_lines (report : Error → Report) (outcome : Outcome) :
    (outcome.settle report).lines = outcome.lines := by
  unfold settle
  cases hresult : outcome.result with
  | ok lines => rfl
  | error error => simp [lines, hresult]

/-- Stopping a failure undoes nothing. -/
theorem Outcome.settle_world (report : Error → Report) (outcome : Outcome) :
    (outcome.settle report).world = outcome.world := by
  unfold settle
  cases outcome.result <;> rfl

/-- An effect that runs have together if each of them has it. -/
structure Effect.Composes (effect : Effect) : Prop where
  nothing : ∀ world, effect 0 world [] world
  note : ∀ world event, event.isNote = true → effect 0 world [event] world
  append : ∀ depth {before between after journal later}, effect depth before journal between →
    effect depth between later after → effect depth before (journal ++ later) after
  within : ∀ {depth before after journal} command, effect depth before journal after →
    effect (depth + 1) before (.entered command :: journal ++ [.left]) after
  mono : ∀ {depth deeper before after journal}, depth ≤ deeper →
    effect depth before journal after → effect deeper before journal after

/-- An effect that does not count the commands, and to which all that marks the course of a run is
the same as nothing. -/
theorem Effect.composes_of_marks {effect : World → Journal → World → Prop}
    (nothing : ∀ world, effect world [] world)
    (note : ∀ world event, event.isNote = true → effect world [event] world)
    (entered : ∀ world command, effect world [.entered command] world)
    (left : ∀ world, effect world [.left] world)
    (append : ∀ {before between after journal later}, effect before journal between →
      effect between later after → effect before (journal ++ later) after) :
    Effect.Composes fun _ => effect where
  nothing := nothing
  note := note
  append _ := append
  within command h := append (append (entered _ command) h) (left _)
  mono _ h := h

/-- A run that starts in this world has the effect. -/
def Outcome.Has (effect : Effect) (depth : Nat) (world : World) (outcome : Outcome) : Prop :=
  effect depth world outcome.journal outcome.world

/-- Each of these leaves has the effect, in every world and with all arguments. -/
def Effect.OfLeaves (effect : Effect) (onStore : OnStore) (leaves : List Body) : Prop :=
  ∀ leaf ∈ leaves, leaf.isLeaf = true → ∀ name args world,
    (leaf.run onStore name args world).Has effect 0 world

section Composed

variable {effect : Effect} {onStore : OnStore} {depth : Nat} {world : World}

theorem Effect.OfLeaves.of_append {leaves others : List Body}
    (h : effect.OfLeaves onStore (leaves ++ others)) :
    effect.OfLeaves onStore leaves ∧ effect.OfLeaves onStore others :=
  ⟨fun leaf hleaf => h leaf (List.mem_append_left _ hleaf),
    fun leaf hleaf => h leaf (List.mem_append_right _ hleaf)⟩

/-- Notes alone have every effect that composes, to any depth. -/
theorem Effect.Composes.notes (hcomposes : effect.Composes) {journal : Journal}
    (hnotes : ∀ event ∈ journal, event.isNote = true) : effect depth world journal world := by
  refine hcomposes.mono (Nat.zero_le _) ?_
  induction journal with
  | nil => exact hcomposes.nothing world
  | cons event journal ih =>
    have hlater := ih fun other hother => hnotes other (List.mem_cons_of_mem _ hother)
    exact hcomposes.append _ (hcomposes.note world event (hnotes event List.mem_cons_self)) hlater

/-- An effect to some depth is one to any greater depth, so parts of different height can be put
together. -/
theorem Outcome.Has.mono {outcome : Outcome} {deeper : Nat} (hcomposes : effect.Composes)
    (h : outcome.Has effect depth world) (hle : depth ≤ deeper) :
    outcome.Has effect deeper world :=
  hcomposes.mono hle h

theorem Outcome.done_has (hcomposes : effect.Composes) (lines : List String) :
    (Outcome.done lines world).Has effect depth world :=
  hcomposes.mono (Nat.zero_le _) (hcomposes.nothing world)

theorem Outcome.fails_has (hcomposes : effect.Composes) (error : Error) :
    (Outcome.fails error world).Has effect depth world :=
  hcomposes.mono (Nat.zero_le _) (hcomposes.note world _ rfl)

/-- Where a failure is stopped, a note is added and nothing else. -/
theorem Outcome.Has.settle {outcome : Outcome} (hcomposes : effect.Composes)
    (report : Error → Report) (h : outcome.Has effect depth world) :
    (outcome.settle report).Has effect depth world := by
  unfold Outcome.settle
  split
  · exact h
  · exact hcomposes.append _ h (hcomposes.notes (by simp [Event.isNote]))

theorem Progress.finish_has {progress : Progress} (hcomposes : effect.Composes) (name : String)
    (h : effect depth world progress.journal progress.world) :
    (progress.finish name).Has effect depth world := by
  refine hcomposes.append _ h (hcomposes.notes ?_)
  intro event hevent
  obtain ⟨failure, _, rfl⟩ := List.mem_map.1 hevent
  rfl

/-- What a leaf can do: store a value, replace a file, attach a listener, fail, or nothing. -/
theorem Effect.Composes.ofLeaves (hcomposes : effect.Composes) {leaves : List Body}
    (hstored : ∀ key, .state key ∈ leaves → ∀ args world,
      (onStore key args world).Has effect 0 world)
    (hwrote : ∀ path, .file path ∈ leaves → ∀ (content : String) (world : World) files,
      world.files.write path content.toUTF8 = .ok files →
        effect 0 world [.wrote path content] { world with files })
    (hattached : ∀ spec, .listener spec ∈ leaves → ∀ world : World,
      world.isAttached spec.place = false →
        effect 0 world [.attached spec] (world.attach spec)) :
    effect.OfLeaves onStore leaves := by
  intro leaf hmem hleaf name args world
  cases leaf with
  | echo target =>
    rw [Body.run, runEcho]
    split
    · exact Outcome.fails_has hcomposes _
    · exact hcomposes.nothing world
  | state key => exact hstored key hmem args world
  | file path =>
    rw [Body.run, runFile]
    split
    · rename_i files hwrite
      exact hwrote path hmem _ world files hwrite
    · exact Outcome.fails_has hcomposes _
  | info text => exact hcomposes.nothing world
  | format template => exact hcomposes.nothing world
  | listener spec =>
    rw [Body.run, runListener]
    split
    · exact hcomposes.nothing world
    · rename_i hfresh
      exact hattached spec hmem world (Bool.eq_false_iff.2 hfresh)
  | shorthand | sequence | option => cases hleaf

mutual

/-- A command has the effects of its leaves, to the depth of its height. -/
theorem Command.run_has (hcomposes : effect.Composes) :
    ∀ (command : Command), effect.OfLeaves onStore command.leaves → ∀ args world,
      (command.run onStore args world).Has effect command.height world
  | ⟨name, _, body⟩, hleaves, args, world => by
    have hbody := Body.run_has hcomposes name body hleaves args world
    rw [Command.run, Command.height]
    exact hcomposes.within name hbody

/-- The induction goes down the tree: a leaf has the effect by assumption, and a composite puts
together what its parts do. -/
theorem Body.run_has (hcomposes : effect.Composes) (name : String) :
    ∀ (body : Body), effect.OfLeaves onStore body.leaves → ∀ args world,
      (body.run onStore name args world).Has effect body.height world
  | .shorthand target fixed, hleaves, _, world =>
    Command.run_has hcomposes target hleaves fixed world
  | .sequence steps, hleaves, args, world =>
    Progress.finish_has hcomposes name (Step.runAll_has hcomposes steps hleaves args 1 world)
  | .option branches, hleaves, args, world => by
    rw [Body.leaves] at hleaves
    cases args with
    | nil =>
      rw [Body.run]
      exact Outcome.fails_has hcomposes _
    | cons word rest =>
      rw [Body.run]
      split
      · exact Branch.runAt_has hcomposes branches hleaves rest _ _ world
      · exact Outcome.fails_has hcomposes _
  | .echo target, hleaves, args, world => hleaves _ List.mem_cons_self rfl name args world
  | .state key, hleaves, args, world => hleaves _ List.mem_cons_self rfl name args world
  | .file path, hleaves, args, world => hleaves _ List.mem_cons_self rfl name args world
  | .info text, hleaves, args, world => hleaves _ List.mem_cons_self rfl name args world
  | .format template, hleaves, args, world => hleaves _ List.mem_cons_self rfl name args world
  | .listener spec, hleaves, args, world => hleaves _ List.mem_cons_self rfl name args world

theorem Step.run_has (hcomposes : effect.Composes) :
    ∀ (step : Step), effect.OfLeaves onStore step.leaves → ∀ args world,
      (step.run onStore args world).Has effect step.height world
  | .reference target leading, hleaves, args, world =>
    Command.run_has hcomposes target hleaves (leading ++ args) world
  | .inline command, hleaves, args, world => Command.run_has hcomposes command hleaves args world

/-- Steps run one after the other, each in the world that the one before it leaves. -/
theorem Step.runAll_has (hcomposes : effect.Composes) :
    ∀ (steps : List Step), effect.OfLeaves onStore (Step.leavesAll steps) →
      ∀ args position world,
        effect (Step.heightAll steps) world (Step.runAll onStore args position steps world).journal
          (Step.runAll onStore args position steps world).world
  | [], _, _, _, world => hcomposes.nothing world
  | step :: steps, hleaves, args, position, world => by
    rw [Step.leavesAll] at hleaves
    obtain ⟨hstep, hsteps⟩ := hleaves.of_append
    have hfirst := Step.run_has hcomposes step hstep args world
    have hlater := Step.runAll_has hcomposes steps hsteps args (position + 1)
      (step.run onStore args world).world
    rw [Step.runAll, Step.heightAll]
    exact hcomposes.append _ (hcomposes.mono (Nat.le_max_left _ _) hfirst)
      (hcomposes.mono (Nat.le_max_right _ _) hlater)

theorem Branch.runAt_has (hcomposes : effect.Composes) :
    ∀ (branches : List Branch), effect.OfLeaves onStore (Branch.leavesAll branches) →
      ∀ args missing index world,
        (Branch.runAt onStore args missing branches index world).Has effect
          (Branch.heightAll branches) world
  | [], _, _, _, _, _ => Outcome.fails_has hcomposes _
  | ⟨_, step⟩ :: branches, hleaves, args, missing, index, world => by
    rw [Branch.leavesAll] at hleaves
    obtain ⟨hstep, hbranches⟩ := hleaves.of_append
    rw [Branch.heightAll]
    cases index with
    | zero =>
      have hchosen := Step.run_has hcomposes step hstep args world
      rw [Branch.runAt]
      exact hcomposes.mono (Nat.le_max_left _ _) hchosen
    | succ index =>
      have hchosen := Branch.runAt_has hcomposes branches hbranches args missing index world
      rw [Branch.runAt]
      exact hcomposes.mono (Nat.le_max_right _ _) hchosen

end

end Composed

end CommandBot
