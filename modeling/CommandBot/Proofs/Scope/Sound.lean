import CommandBot.Proofs.Scope.Reading
import CommandBot.Proofs.Table

namespace CommandBot

/-- What holds of a command by itself, whether it stands in the table or inside another one: the
class name that it was written with means its class, what it refers to is what the scope holds under
that name, and keys and triggers are not empty. -/
structure Command.SoundIn (scope : Scope) (command : Command) : Prop where
  classAlias : scope.class? command.classAlias = some command.classTag
  target : ∀ target ∈ command.body.targets, scope.commands.get? target.name = some target
  key : ∀ key, command.body = .state key → key ≠ ""
  trigger : ∀ spec, command.body = .listener spec → spec.trigger ≠ ""

/-- What holds of commands written in place: they have no name, and each is sound. -/
def Scope.HoldsInPlace (scope : Scope) (commands : List Command) : Prop :=
  ∀ command ∈ commands, command.name = "" ∧ command.SoundIn scope

/-- A step refers to a command of the scope or is sound at every depth. -/
structure Step.SoundIn (scope : Scope) (step : Step) : Prop where
  target : ∀ target, step.target? = some target → scope.commands.get? target.name = some target
  nested : scope.HoldsInPlace step.nested

namespace Scope

/-- Each command stands under its own name, which is not empty. -/
def Named (scope : Scope) : Prop :=
  ∀ key command, scope.commands.get? key = some command → command.name = key ∧ key ≠ ""

variable {scope : Scope}

theorem Named.get?_name (hnamed : scope.Named) {key : String} {command : Command}
    (h : scope.commands.get? key = some command) :
    scope.commands.get? command.name = some command := by
  rw [(hnamed key command h).1]
  exact h

/-- What stands in a body in place stands in one of its steps. -/
theorem holdsInPlace_body {body : Body} (h : ∀ step ∈ body.steps, step.SoundIn scope) :
    scope.HoldsInPlace body.nested := by
  intro command hcommand
  rw [Body.nested_eq] at hcommand
  obtain ⟨step, hstep, hnested⟩ := List.mem_flatMap.1 hcommand
  exact (h step hstep).nested command hnested

end Scope

namespace Body.ReadIn

variable {scope : Scope}

/-- A step of a body that was read was read inside its place. -/
theorem steps {P : Place → Step → Prop} {place : Place} {body : Body}
    (h : body.ReadIn scope P place) : ∀ step ∈ body.steps, ∃ index, P (index :: place) step := by
  cases body with
  | sequence steps =>
    intro step hstep
    exact h.of_mem hstep
  | option branches =>
    intro step hstep
    obtain ⟨branch, hbranch, rfl⟩ := List.mem_map.1 hstep
    obtain ⟨index, hread, _⟩ := h.of_mem hbranch
    exact ⟨index, hread⟩
  | listener spec =>
    intro step hstep
    rw [List.mem_singleton.1 hstep]
    exact ⟨0, h.2.2⟩
  | echo | shorthand | state | file | info | format =>
    intro step hstep
    cases hstep

/-- What is read from sound steps is a sound command, and so is everything in it. -/
theorem soundIn (hnamed : scope.Named) (name : String) {classAlias : String} {place : Place}
    {body : Body} (hclass : scope.class? classAlias = some body.classTag)
    (h : body.ReadIn scope (fun _ => Step.SoundIn scope) place) :
    Command.SoundIn scope ⟨name, classAlias, body⟩ ∧ scope.HoldsInPlace body.nested := by
  have hsteps (step : Step) (hstep : step ∈ body.steps) : step.SoundIn scope := by
    obtain ⟨_, hsound⟩ := h.steps step hstep
    exact hsound
  refine ⟨⟨hclass, ?_, ?_, ?_⟩, Scope.holdsInPlace_body hsteps⟩
  · intro target htarget
    cases body with
    | shorthand only fixed =>
      obtain ⟨⟨key, hkey⟩, _⟩ := h
      rw [List.mem_singleton.1 htarget]
      exact hnamed.get?_name hkey
    | echo | sequence | option | state | file | info | format | listener =>
      obtain ⟨step, hstep, htarget⟩ := List.mem_filterMap.1 htarget
      exact (hsteps step hstep).target target htarget
  · rintro key rfl
    exact h
  · rintro spec rfl
    exact h.1

end Body.ReadIn

namespace Scope

variable {scope : Scope}

/-- A reference is sound if the scope holds its target. -/
theorem Named.reference_soundIn (hnamed : scope.Named) {name : String} {target : Command}
    (args : List String) (hget : scope.commands.get? name = some target) :
    (Step.reference target args).SoundIn scope := by
  refine ⟨?_, ?_⟩
  · rintro _ ⟨⟩
    exact hnamed.get?_name hget
  · intro command hcommand
    cases hcommand

/-- Each of the three ways to write a step leads to a sound one. -/
theorem Named.reads_soundIn (hnamed : scope.Named) :
    scope.Reads (fun _ => Step.SoundIn scope) where
  bare _ _ _ hget := hnamed.reference_soundIn [] hget
  applied _ _ _ args _ hget := hnamed.reference_soundIn args hget
  inline := by
    intro place head body hclass hread
    obtain ⟨hcommand, hnested⟩ := hread.soundIn hnamed "" hclass
    refine ⟨by rintro _ ⟨⟩, ?_⟩
    intro command hmem
    rcases List.mem_cons.1 hmem with rfl | hmem
    · exact ⟨rfl, hcommand⟩
    · exact hnested command hmem

/-- Whatever an entry resolves to is sound at every depth. -/
theorem Named.resolve_soundIn (hnamed : scope.Named) {place : Place} {entry : Json} {step : Step}
    (h : scope.resolve place entry = .ok step) : step.SoundIn scope :=
  hnamed.reads_soundIn.resolve place entry step h

/-- Whatever a declaration writes is sound at every depth, and unnamed where it is written in place.
-/
theorem Named.declared_soundIn (hnamed : scope.Named) {entry : Json} {command : Command}
    (h : scope.declared entry = .ok command) :
    command.SoundIn scope ∧ scope.HoldsInPlace command.nested := by
  obtain ⟨head, name, args, body, _, _, rfl, hclass, hread⟩ := hnamed.reads_soundIn.declared h
  exact hread.soundIn hnamed name hclass

end Scope

end CommandBot
