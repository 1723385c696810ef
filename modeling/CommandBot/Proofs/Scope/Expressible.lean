import CommandBot.Proofs.Command.Content
import CommandBot.Proofs.Text.Words
import CommandBot.Scope.Basic

namespace CommandBot

/-! ### The entry of a step -/

mutual

/-- The entry that writes a step: a bare name, a name with arguments, or a class name with the
arguments of its class. -/
def Step.entry : Step → Json
  | .reference target [] => .string target.name
  | .reference target leading => .array (.string target.name :: leading.map .string)
  | .inline ⟨_, classAlias, body⟩ => .array (.string classAlias :: body.arguments)

/-- What stands behind the class name of a command without a name. -/
def Body.arguments : Body → List Json
  | .echo text | .state text | .file text | .info text | .format text => [.string text]
  | .shorthand target fixed => .string target.name :: fixed.map .string
  | .sequence steps => Step.entries steps
  | .option branches => Branch.entries branches
  | .listener spec => [.object spec.fields]

/-- The fields of a listener. -/
def Listener.fields : Listener → List (String × Json)
  | ⟨_, trigger, user, temporary, step⟩ =>
    [("trigger", .string trigger), ("user", user.elim .null .string), ("temp", .bool temporary),
      ("command", step.entry)]

def Step.entries : List Step → List Json
  | [] => []
  | step :: steps => step.entry :: Step.entries steps

/-- The entry of a branch: its selector, if it gives one, stands before the entry of its step. -/
def Branch.entry : Branch → Json
  | ⟨none, step⟩ => step.entry
  | ⟨some selector, step⟩ => .array [.string selector, step.entry]

def Branch.entries : List Branch → List Json
  | [] => []
  | branch :: branches => branch.entry :: Branch.entries branches

end

/-! ### Steps that can be expressed -/

/-- The command is the one that the scope holds under its name. -/
def Scope.Holds (scope : Scope) (command : Command) : Prop :=
  scope.commands.get? command.name = some command

/-- The word is neither a class name nor the name of a command. -/
def Scope.Unused (scope : Scope) (word : String) : Prop :=
  scope.class? word = none ∧ scope.commands.contains word = false

mutual

/-- A scope can express a step that refers to a command of its own, by a name that is not taken for
a class if arguments follow it, or whose command has no name and a class name for its class. No
entry is mentioned: it is said by what the scope holds and by the words in the step. -/
def Step.ExpressibleIn (scope : Scope) : Step → Prop
  | .reference target leading =>
    scope.Holds target ∧ (leading ≠ [] → scope.class? target.name = none)
  | .inline ⟨name, classAlias, body⟩ =>
    name = "" ∧ scope.class? classAlias = some body.classTag ∧ body.ExpressibleIn scope

/-- The arguments of an alias are words, keys and triggers are not empty, and selectors mean nothing
else. -/
def Body.ExpressibleIn (scope : Scope) : Body → Prop
  | .shorthand target fixed => scope.Holds target ∧ ∀ arg ∈ fixed, Text.IsWord arg
  | .sequence steps => Step.AllExpressibleIn scope steps
  | .option branches => Branch.AllExpressibleIn scope branches
  | .state key => key ≠ ""
  | .listener spec => spec.ExpressibleIn scope
  | .echo _ | .file _ | .info _ | .format _ => True

def Listener.ExpressibleIn (scope : Scope) : Listener → Prop
  | ⟨_, trigger, _, _, step⟩ => trigger ≠ "" ∧ step.ExpressibleIn scope

def Step.AllExpressibleIn (scope : Scope) : List Step → Prop
  | [] => True
  | step :: steps => step.ExpressibleIn scope ∧ Step.AllExpressibleIn scope steps

def Branch.ExpressibleIn (scope : Scope) : Branch → Prop
  | ⟨selector, step⟩ => (∀ word, selector = some word → scope.Unused word) ∧
    step.ExpressibleIn scope

def Branch.AllExpressibleIn (scope : Scope) : List Branch → Prop
  | [] => True
  | branch :: branches => branch.ExpressibleIn scope ∧ Branch.AllExpressibleIn scope branches

end

/-! ### The same step at another place -/

mutual

/-- The step as it is when it is written at this place: the listeners in it stand there, and nothing
else changes. -/
def Step.placed (place : Place) : Step → Step
  | .reference target leading => .reference target leading
  | .inline ⟨name, classAlias, body⟩ => .inline ⟨name, classAlias, body.placed place⟩

def Body.placed (place : Place) : Body → Body
  | .sequence steps => .sequence (Step.allPlaced place 0 steps)
  | .option branches => .option (Branch.allPlaced place 0 branches)
  | .listener spec => .listener (spec.placed place)
  | body => body

def Listener.placed (place : Place) : Listener → Listener
  | ⟨_, trigger, user, temporary, step⟩ =>
    ⟨place, trigger, user, temporary, step.placed (0 :: place)⟩

def Step.allPlaced (place : Place) (position : Nat) : List Step → List Step
  | [] => []
  | step :: steps => step.placed (position :: place) :: Step.allPlaced place (position + 1) steps

def Branch.placed (place : Place) : Branch → Branch
  | ⟨selector, step⟩ => ⟨selector, step.placed place⟩

def Branch.allPlaced (place : Place) (position : Nat) : List Branch → List Branch
  | [] => []
  | branch :: branches =>
    branch.placed (position :: place) :: Branch.allPlaced place (position + 1) branches

end

mutual

/-- Writing a step at another place does not change its content. -/
theorem Step.content_placed (place : Place) : ∀ step : Step,
    (step.placed place).content = step.content
  | .reference _ _ => rfl
  | .inline ⟨_, _, body⟩ => by
    rw [Step.placed, Step.content, Command.content, body.content_placed place, Step.content,
      Command.content]

/-- The places of listeners are all that changes in a body. -/
theorem Body.content_placed (place : Place) : ∀ body : Body,
    (body.placed place).content = body.content
  | .sequence steps => congrArg Body.sequence (Step.content_allPlaced place 0 steps)
  | .option branches => congrArg Body.option (Branch.content_allPlaced place 0 branches)
  | .listener spec => congrArg Body.listener (spec.content_placed place)
  | .shorthand _ _ | .echo _ | .state _ | .file _ | .info _ | .format _ => rfl

theorem Listener.content_placed (place : Place) : ∀ spec : Listener,
    (spec.placed place).content = spec.content
  | ⟨_, _, _, _, step⟩ => by
    rw [Listener.placed, Listener.content, step.content_placed, Listener.content]

theorem Step.content_allPlaced (place : Place) (position : Nat) : ∀ steps : List Step,
    Step.contentAll (Step.allPlaced place position steps) = Step.contentAll steps
  | [] => rfl
  | step :: steps => by
    rw [Step.allPlaced, Step.contentAll, step.content_placed, Step.content_allPlaced,
      Step.contentAll]

theorem Branch.content_allPlaced (place : Place) (position : Nat) : ∀ branches : List Branch,
    Branch.contentAll (Branch.allPlaced place position branches) = Branch.contentAll branches
  | [] => rfl
  | ⟨selector, step⟩ :: branches => by
    rw [Branch.allPlaced, Branch.placed, Branch.contentAll, step.content_placed,
      Branch.content_allPlaced, Branch.contentAll]

end

end CommandBot
