import CommandBot.Command

namespace CommandBot

/-- The command that a step refers to. -/
def Step.target? : Step → Option Command
  | .reference target _ => some target
  | .inline _ => none

namespace Body

/-- The steps directly in a body. What a listener runs is one of them. -/
def steps : Body → List Step
  | .sequence steps => steps
  | .option branches => branches.map Branch.step
  | .listener spec => [spec.step]
  | _ => []

/-- The commands that a body refers to directly. -/
def targets (body : Body) : List Command :=
  match body with
  | .shorthand target _ => [target]
  | body => body.steps.filterMap Step.target?

end Body

mutual

/-- The commands written in place inside a command, at every depth. What a listener runs is written
inside its command; references are not followed. -/
def Command.nested : Command → List Command
  | ⟨_, _, body⟩ => body.nested

def Body.nested : Body → List Command
  | .sequence steps => Step.nestedAll steps
  | .option branches => Branch.nestedAll branches
  | .listener ⟨_, _, _, _, step⟩ => step.nested
  | _ => []

def Step.nested : Step → List Command
  | .reference _ _ => []
  | .inline command => command :: command.nested

def Step.nestedAll : List Step → List Command
  | [] => []
  | step :: steps => step.nested ++ Step.nestedAll steps

def Branch.nestedAll : List Branch → List Command
  | [] => []
  | ⟨_, step⟩ :: branches => step.nested ++ Branch.nestedAll branches

end

theorem Step.nestedAll_eq (steps : List Step) :
    Step.nestedAll steps = steps.flatMap Step.nested := by
  induction steps with
  | nil => rfl
  | cons step steps ih => rw [Step.nestedAll, ih, List.flatMap_cons]

theorem Branch.nestedAll_eq (branches : List Branch) :
    Branch.nestedAll branches = (branches.map Branch.step).flatMap Step.nested := by
  induction branches with
  | nil => rfl
  | cons branch branches ih =>
    obtain ⟨_, step⟩ := branch
    rw [Branch.nestedAll, ih, List.map_cons, List.flatMap_cons]

/-- Whatever a body is, what is nested in it is nested in its steps. -/
theorem Body.nested_eq (body : Body) : body.nested = body.steps.flatMap Step.nested := by
  cases body with
  | sequence steps => exact Step.nestedAll_eq steps
  | option branches => exact Branch.nestedAll_eq branches
  | listener spec =>
    obtain ⟨_, _, _, _, step⟩ := spec
    exact (List.append_nil step.nested).symm
  | _ => rfl

namespace Command

/-- A command and those nested in it. -/
def written (command : Command) : List Command := command :: command.nested

/-- The commands that a command refers to, at any depth. -/
def references (command : Command) : List Command := command.written.flatMap (·.body.targets)

end Command

/-! ### Listeners where they are written -/

/-- The listener that a listener command attaches. -/
def Body.listener? : Body → Option Listener
  | .listener spec => some spec
  | _ => none

/-- The listeners of the listener commands among a command and those nested in it. -/
def Command.specs (command : Command) : List Listener :=
  command.written.filterMap (·.body.listener?)

def Step.specs (step : Step) : List Listener := step.nested.filterMap (·.body.listener?)

/-- The listeners of a command are the one that it attaches itself, if it attaches one, and those of
its steps. -/
theorem Command.specs_eq (command : Command) :
    command.specs = command.body.listener?.toList ++ command.body.steps.flatMap Step.specs := by
  obtain ⟨name, classAlias, body⟩ := command
  have hnested : body.nested.filterMap (·.body.listener?) = body.steps.flatMap Step.specs := by
    rw [Body.nested_eq, List.filterMap_flatMap]
    rfl
  rw [← hnested]
  cases body <;> rfl

end CommandBot
