import CommandBot.Proofs.Command.Leaves
import CommandBot.Proofs.Command.Nested

namespace CommandBot

/-- The command that a step runs. -/
def Step.command : Step → Command
  | .reference target _ => target
  | .inline command => command

/-- The commands directly in a body, whether it refers to them or holds them in place. What a
listener runs is one of them. -/
def Body.parts : Body → List Command
  | .shorthand target _ => [target]
  | body => body.steps.map Step.command

/-- A property that the parts of a command have if the command has it. It then holds of every
command that a run may come to, however far away. -/
def Command.Hereditary (property : Command → Prop) : Prop :=
  ∀ command, property command → ∀ part ∈ command.body.parts, property part

section Hereditary

variable {property : Command → Prop}

mutual

/-- Every leaf that a command may run is the body of a command with the property. References are
followed here too, so it is a fact about whole runs and not about one entry. -/
theorem Command.exists_of_mem_leaves (hparts : Command.Hereditary property) {leaf : Body} :
    ∀ (command : Command), property command → leaf ∈ command.leaves →
      ∃ inner, property inner ∧ inner.body = leaf
  | ⟨name, classAlias, body⟩, hcommand, hleaf => by
    rcases Body.exists_of_mem_leaves hparts body (hparts _ hcommand) hleaf with rfl | hinner
    · exact ⟨_, hcommand, rfl⟩
    · exact hinner

/-- A body that is itself a leaf may have no command with the property around it: hence the first
case. -/
theorem Body.exists_of_mem_leaves (hparts : Command.Hereditary property) {leaf : Body} :
    ∀ (body : Body), (∀ part ∈ body.parts, property part) → leaf ∈ body.leaves →
      body = leaf ∨ ∃ inner, property inner ∧ inner.body = leaf
  | .shorthand target _, hbody, hleaf =>
    .inr (Command.exists_of_mem_leaves hparts target (hbody target List.mem_cons_self) hleaf)
  | .sequence steps, hbody, hleaf =>
    .inr (Step.exists_of_mem_leavesAll hparts steps (List.forall_mem_map.1 hbody) hleaf)
  | .option branches, hbody, hleaf =>
    .inr (Branch.exists_of_mem_leavesAll hparts branches (List.forall_mem_map.1 hbody) hleaf)
  | .echo _, _, hleaf | .state _, _, hleaf | .file _, _, hleaf | .info _, _, hleaf
  | .format _, _, hleaf | .listener _, _, hleaf => .inl (List.mem_singleton.1 hleaf).symm

theorem Step.exists_of_mem_leaves (hparts : Command.Hereditary property) {leaf : Body} :
    ∀ (step : Step), property step.command → leaf ∈ step.leaves →
      ∃ inner, property inner ∧ inner.body = leaf
  | .reference target _, hstep, hleaf => Command.exists_of_mem_leaves hparts target hstep hleaf
  | .inline command, hstep, hleaf => Command.exists_of_mem_leaves hparts command hstep hleaf

theorem Step.exists_of_mem_leavesAll (hparts : Command.Hereditary property) {leaf : Body} :
    ∀ (steps : List Step), (∀ step ∈ steps, property step.command) →
      leaf ∈ Step.leavesAll steps → ∃ inner, property inner ∧ inner.body = leaf
  | [], _, hleaf => absurd hleaf List.not_mem_nil
  | step :: steps, hsteps, hleaf => by
    obtain ⟨hstep, hlater⟩ := List.forall_mem_cons.1 hsteps
    rw [Step.leavesAll] at hleaf
    rcases List.mem_append.1 hleaf with hleaf | hleaf
    · exact Step.exists_of_mem_leaves hparts step hstep hleaf
    · exact Step.exists_of_mem_leavesAll hparts steps hlater hleaf

theorem Branch.exists_of_mem_leavesAll (hparts : Command.Hereditary property) {leaf : Body} :
    ∀ (branches : List Branch), (∀ step ∈ branches.map Branch.step, property step.command) →
      leaf ∈ Branch.leavesAll branches → ∃ inner, property inner ∧ inner.body = leaf
  | [], _, hleaf => absurd hleaf List.not_mem_nil
  | ⟨_, step⟩ :: branches, hsteps, hleaf => by
    obtain ⟨hstep, hlater⟩ := List.forall_mem_cons.1 hsteps
    rw [Branch.leavesAll] at hleaf
    rcases List.mem_append.1 hleaf with hleaf | hleaf
    · exact Step.exists_of_mem_leaves hparts step hstep hleaf
    · exact Branch.exists_of_mem_leavesAll hparts branches hlater hleaf

end

mutual

/-- A listener that a command can bring about stands in a command with the property, also where
another listener attaches it. -/
theorem Command.exists_of_mem_listeners (hparts : Command.Hereditary property) {spec : Listener} :
    ∀ (command : Command), property command → spec ∈ command.listeners →
      ∃ inner, property inner ∧ inner.body = .listener spec
  | ⟨name, classAlias, body⟩, hcommand, hspec => by
    rcases Body.exists_of_mem_listeners hparts body (hparts _ hcommand) hspec with rfl | hinner
    · exact ⟨_, hcommand, rfl⟩
    · exact hinner

/-- What a listener runs is a part of its command, so the induction goes on inside it. -/
theorem Body.exists_of_mem_listeners (hparts : Command.Hereditary property) {spec : Listener} :
    ∀ (body : Body), (∀ part ∈ body.parts, property part) → spec ∈ body.listeners →
      body = .listener spec ∨ ∃ inner, property inner ∧ inner.body = .listener spec
  | .shorthand target _, hbody, hspec =>
    .inr (Command.exists_of_mem_listeners hparts target (hbody target List.mem_cons_self) hspec)
  | .sequence steps, hbody, hspec =>
    .inr (Step.exists_of_mem_listenersAll hparts steps (List.forall_mem_map.1 hbody) hspec)
  | .option branches, hbody, hspec =>
    .inr (Branch.exists_of_mem_listenersAll hparts branches (List.forall_mem_map.1 hbody) hspec)
  | .listener ⟨_, _, _, _, step⟩, hbody, hspec => by
    rcases List.mem_cons.1 hspec with rfl | hspec
    · exact .inl rfl
    · exact .inr (Step.exists_of_mem_listeners hparts step (hbody _ List.mem_cons_self) hspec)
  | .echo _, _, hspec | .state _, _, hspec | .file _, _, hspec | .info _, _, hspec
  | .format _, _, hspec => absurd hspec List.not_mem_nil

theorem Step.exists_of_mem_listeners (hparts : Command.Hereditary property) {spec : Listener} :
    ∀ (step : Step), property step.command → spec ∈ step.listeners →
      ∃ inner, property inner ∧ inner.body = .listener spec
  | .reference target _, hstep, hspec => Command.exists_of_mem_listeners hparts target hstep hspec
  | .inline command, hstep, hspec => Command.exists_of_mem_listeners hparts command hstep hspec

theorem Step.exists_of_mem_listenersAll (hparts : Command.Hereditary property) {spec : Listener} :
    ∀ (steps : List Step), (∀ step ∈ steps, property step.command) →
      spec ∈ Step.listenersAll steps → ∃ inner, property inner ∧ inner.body = .listener spec
  | [], _, hspec => absurd hspec List.not_mem_nil
  | step :: steps, hsteps, hspec => by
    obtain ⟨hstep, hlater⟩ := List.forall_mem_cons.1 hsteps
    rw [Step.listenersAll] at hspec
    rcases List.mem_append.1 hspec with hspec | hspec
    · exact Step.exists_of_mem_listeners hparts step hstep hspec
    · exact Step.exists_of_mem_listenersAll hparts steps hlater hspec

theorem Branch.exists_of_mem_listenersAll (hparts : Command.Hereditary property)
    {spec : Listener} :
    ∀ (branches : List Branch), (∀ step ∈ branches.map Branch.step, property step.command) →
      spec ∈ Branch.listenersAll branches → ∃ inner, property inner ∧ inner.body = .listener spec
  | [], _, hspec => absurd hspec List.not_mem_nil
  | ⟨_, step⟩ :: branches, hsteps, hspec => by
    obtain ⟨hstep, hlater⟩ := List.forall_mem_cons.1 hsteps
    rw [Branch.listenersAll] at hspec
    rcases List.mem_append.1 hspec with hspec | hspec
    · exact Step.exists_of_mem_listeners hparts step hstep hspec
    · exact Branch.exists_of_mem_listenersAll hparts branches hlater hspec

end

end Hereditary

end CommandBot
