import CommandBot.Proofs.Command.Parts
import CommandBot.Proofs.Scope.Growth

namespace CommandBot.Scope

variable {scope : Scope}

/-- The commands of a scope and those nested in them. -/
def written (scope : Scope) : List Command := scope.commands.entries.flatMap (·.2.written)

/-- A command that is sound at every depth, all that is written in it being known. -/
structure Knows (scope : Scope) (known : List Command) (command : Command) : Prop where
  sound : command.SoundIn scope
  nested : scope.HoldsInPlace command.nested
  written : command.written ⊆ known

/-- The steps of a body are sound if what it refers to stands in the scope and what is nested in it
is sound. -/
theorem soundIn_steps {body : Body}
    (htargets : ∀ target ∈ body.targets, scope.commands.get? target.name = some target)
    (hnested : scope.HoldsInPlace body.nested) : ∀ step ∈ body.steps, step.SoundIn scope := by
  intro step hstep
  constructor
  · intro target htarget
    apply htargets
    cases body with
    | shorthand => cases hstep
    | echo | sequence | option | state | file | info | format | listener =>
      exact List.mem_filterMap.2 ⟨step, hstep, htarget⟩
  · intro command hcommand
    rw [Body.nested_eq] at hnested
    exact hnested command (List.mem_flatMap.2 ⟨step, hstep, hcommand⟩)

section Known

variable {known : List Command}

/-- A command of the scope is known, for all that is written in it is written in the scope. -/
theorem Sound.knows (hscope : scope.Sound) (hknown : scope.written ⊆ known) {name : String}
    {command : Command} (hget : scope.commands.get? name = some command) :
    scope.Knows known command := by
  obtain ⟨hsound, hnested⟩ := hscope.command name command hget
  refine ⟨hsound, hnested, fun inner hinner => hknown ?_⟩
  exact List.mem_flatMap.2 ⟨_, Table.mem_of_find hget, hinner⟩

theorem Sound.knows_step (hscope : scope.Sound) (hknown : scope.written ⊆ known) {step : Step}
    (hstep : step.SoundIn scope) (hnested : step.nested ⊆ known) :
    scope.Knows known step.command := by
  cases step with
  | reference target leading => exact hscope.knows hknown (hstep.target target rfl)
  | inline command =>
    obtain ⟨_, hcommand⟩ := hstep.nested command List.mem_cons_self
    refine ⟨hcommand, ?_, hnested⟩
    intro inner hinner
    exact hstep.nested inner (List.mem_cons_of_mem _ hinner)

/-- The parts of a known command are known: it refers to commands of the scope, and what stands in
it in place was written in it. So everything that a command comes to, through references or through
listeners, is written somewhere in the scope or in the command itself. -/
theorem Sound.knows_hereditary (hscope : scope.Sound) (hknown : scope.written ⊆ known) :
    Command.Hereditary (scope.Knows known) := by
  rintro ⟨name, classAlias, body⟩ hcommand part hpart
  have hsteps (hparts : part ∈ body.steps.map Step.command) : scope.Knows known part := by
    obtain ⟨step, hstep, rfl⟩ := List.mem_map.1 hparts
    refine hscope.knows_step hknown
      (soundIn_steps hcommand.sound.target hcommand.nested step hstep) ?_
    intro inner hinner
    apply hcommand.written
    refine List.mem_cons_of_mem _ ?_
    rw [Command.nested, Body.nested_eq]
    exact List.mem_flatMap.2 ⟨step, hstep, hinner⟩
  cases body with
  | shorthand target fixed =>
    obtain rfl := List.mem_singleton.1 hpart
    exact hscope.knows hknown (hcommand.sound.target part List.mem_cons_self)
  | echo | sequence | option | state | file | info | format | listener => exact hsteps hpart

end Known

end CommandBot.Scope
