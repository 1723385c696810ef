import CommandBot.Command

namespace CommandBot

/-- A body that acts itself and runs nothing. -/
def Body.isLeaf : Body → Bool
  | .shorthand .. | .sequence _ | .option _ => false
  | _ => true

mutual

/-- The leaves that a command may run. References and alias targets are followed; what a listener
runs is not, because attaching the listener does not run it. -/
def Command.leaves : Command → List Body
  | ⟨_, _, body⟩ => body.leaves

/-- The leaves that a body may run: itself, if it is one. -/
def Body.leaves : Body → List Body
  | .shorthand target _ => target.leaves
  | .sequence steps => Step.leavesAll steps
  | .option branches => Branch.leavesAll branches
  | leaf => [leaf]

def Step.leaves : Step → List Body
  | .reference target _ => target.leaves
  | .inline command => command.leaves

def Step.leavesAll : List Step → List Body
  | [] => []
  | step :: steps => step.leaves ++ Step.leavesAll steps

def Branch.leavesAll : List Branch → List Body
  | [] => []
  | ⟨_, step⟩ :: branches => step.leaves ++ Branch.leavesAll branches

end

mutual

/-- The listeners that a command may attach, and those that these may attach in turn. -/
def Command.listeners : Command → List Listener
  | ⟨_, _, body⟩ => body.listeners

def Body.listeners : Body → List Listener
  | .shorthand target _ => target.listeners
  | .sequence steps => Step.listenersAll steps
  | .option branches => Branch.listenersAll branches
  | .listener spec => spec.listeners
  | _ => []

def Listener.listeners : Listener → List Listener
  | ⟨place, trigger, user, temporary, step⟩ =>
    ⟨place, trigger, user, temporary, step⟩ :: step.listeners

def Step.listeners : Step → List Listener
  | .reference target _ => target.listeners
  | .inline command => command.listeners

def Step.listenersAll : List Step → List Listener
  | [] => []
  | step :: steps => step.listeners ++ Step.listenersAll steps

def Branch.listenersAll : List Branch → List Listener
  | [] => []
  | ⟨_, step⟩ :: branches => step.listeners ++ Branch.listenersAll branches

end

theorem Listener.mem_listeners_self (spec : Listener) : spec ∈ spec.listeners := by
  cases spec
  exact List.mem_cons_self

mutual

/-- A run attaches the listeners of its leaves, and each of them is one that the command can bring
about. -/
theorem Command.mem_listeners_of_leaf {spec : Listener} :
    ∀ (command : Command), .listener spec ∈ command.leaves → spec ∈ command.listeners
  | ⟨_, _, body⟩, hleaf => Body.mem_listeners_of_leaf body hleaf

theorem Body.mem_listeners_of_leaf {spec : Listener} :
    ∀ (body : Body), .listener spec ∈ body.leaves → spec ∈ body.listeners
  | .shorthand target _, hleaf => Command.mem_listeners_of_leaf target hleaf
  | .sequence steps, hleaf => Step.mem_listenersAll_of_leaf steps hleaf
  | .option branches, hleaf => Branch.mem_listenersAll_of_leaf branches hleaf
  | .listener attached, hleaf => by
    cases List.mem_singleton.1 hleaf
    exact spec.mem_listeners_self
  | .echo _, hleaf | .state _, hleaf | .file _, hleaf | .info _, hleaf | .format _, hleaf => by
    simp [Body.leaves] at hleaf

theorem Step.mem_listeners_of_leaf {spec : Listener} :
    ∀ (step : Step), .listener spec ∈ step.leaves → spec ∈ step.listeners
  | .reference target _, hleaf => Command.mem_listeners_of_leaf target hleaf
  | .inline command, hleaf => Command.mem_listeners_of_leaf command hleaf

theorem Step.mem_listenersAll_of_leaf {spec : Listener} :
    ∀ (steps : List Step), .listener spec ∈ Step.leavesAll steps → spec ∈ Step.listenersAll steps
  | [], hleaf => absurd hleaf List.not_mem_nil
  | step :: steps, hleaf => by
    rw [Step.leavesAll] at hleaf
    rw [Step.listenersAll]
    rcases List.mem_append.1 hleaf with hleaf | hleaf
    · exact List.mem_append_left _ (Step.mem_listeners_of_leaf step hleaf)
    · exact List.mem_append_right _ (Step.mem_listenersAll_of_leaf steps hleaf)

theorem Branch.mem_listenersAll_of_leaf {spec : Listener} :
    ∀ (branches : List Branch), .listener spec ∈ Branch.leavesAll branches →
      spec ∈ Branch.listenersAll branches
  | [], hleaf => absurd hleaf List.not_mem_nil
  | ⟨_, step⟩ :: branches, hleaf => by
    rw [Branch.leavesAll] at hleaf
    rw [Branch.listenersAll]
    rcases List.mem_append.1 hleaf with hleaf | hleaf
    · exact List.mem_append_left _ (Step.mem_listeners_of_leaf step hleaf)
    · exact List.mem_append_right _ (Branch.mem_listenersAll_of_leaf branches hleaf)

end

/-- Listeners that bring about no others: what any of them attaches in turn is one of them. -/
def Listener.Closed (specs : List Listener) : Prop :=
  ∀ spec ∈ specs, spec.step.listeners ⊆ specs

theorem Listener.closed_nil : Closed [] := by
  intro spec hspec
  cases hspec

/-- Closed lists may be put together: each listener finds what it attaches in its own list. -/
theorem Listener.Closed.append {specs others : List Listener} (h : Closed specs)
    (hothers : Closed others) : Closed (specs ++ others) := by
  intro spec hspec
  rcases List.mem_append.1 hspec with hspec | hspec
  · exact List.subset_append_of_subset_left _ (h spec hspec)
  · exact List.subset_append_of_subset_right _ (hothers spec hspec)

theorem Listener.Closed.flatMap {α : Type} {parts : List α} {listeners : α → List Listener}
    (h : ∀ part ∈ parts, Closed (listeners part)) : Closed (parts.flatMap listeners) := by
  induction parts with
  | nil => exact closed_nil
  | cons part parts ih =>
    rw [List.flatMap_cons]
    have hlater := ih fun other hother => h other (List.mem_cons_of_mem _ hother)
    exact (h part List.mem_cons_self).append hlater

mutual

/-- What a listener of a command brings about, the command brings about too. -/
theorem Command.listeners_closed : ∀ (command : Command), Listener.Closed command.listeners
  | ⟨_, _, body⟩ => Body.listeners_closed body

theorem Body.listeners_closed : ∀ (body : Body), Listener.Closed body.listeners
  | .shorthand target _ => Command.listeners_closed target
  | .sequence steps => Step.listenersAll_closed steps
  | .option branches => Branch.listenersAll_closed branches
  | .listener spec => Listener.listeners_closed spec
  | .echo _ | .state _ | .file _ | .info _ | .format _ => Listener.closed_nil

theorem Listener.listeners_closed : ∀ (spec : Listener), Listener.Closed spec.listeners
  | ⟨_, _, _, _, step⟩ => by
    intro spec hspec
    rcases List.mem_cons.1 hspec with rfl | hspec
    · exact List.subset_cons_self _ _
    · exact List.subset_cons_of_subset _ (Step.listeners_closed step spec hspec)

theorem Step.listeners_closed : ∀ (step : Step), Listener.Closed step.listeners
  | .reference target _ => Command.listeners_closed target
  | .inline command => Command.listeners_closed command

theorem Step.listenersAll_closed :
    ∀ (steps : List Step), Listener.Closed (Step.listenersAll steps)
  | [] => Listener.closed_nil
  | step :: steps => (Step.listeners_closed step).append (Step.listenersAll_closed steps)

theorem Branch.listenersAll_closed :
    ∀ (branches : List Branch), Listener.Closed (Branch.listenersAll branches)
  | [] => Listener.closed_nil
  | ⟨_, step⟩ :: branches =>
    (Step.listeners_closed step).append (Branch.listenersAll_closed branches)

end

end CommandBot
