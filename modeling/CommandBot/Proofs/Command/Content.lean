import CommandBot.Command

namespace CommandBot

mutual

/-- The command with every place in it left out, also in what it refers to. Two commands with the
same content differ in nothing but where their listeners were written. -/
def Command.content : Command → Command
  | ⟨name, classAlias, body⟩ => ⟨name, classAlias, body.content⟩

def Body.content : Body → Body
  | .shorthand target fixed => .shorthand target.content fixed
  | .sequence steps => .sequence (Step.contentAll steps)
  | .option branches => .option (Branch.contentAll branches)
  | .listener spec => .listener spec.content
  | body => body

def Listener.content : Listener → Listener
  | ⟨_, trigger, user, temporary, step⟩ => ⟨[], trigger, user, temporary, step.content⟩

def Step.content : Step → Step
  | .reference target leading => .reference target.content leading
  | .inline command => .inline command.content

def Step.contentAll : List Step → List Step
  | [] => []
  | step :: steps => step.content :: Step.contentAll steps

def Branch.contentAll : List Branch → List Branch
  | [] => []
  | ⟨selector, step⟩ :: branches => ⟨selector, step.content⟩ :: Branch.contentAll branches

end

mutual

/-- The selectors that the options written in a command give, at every depth, listeners included.
References are not followed. -/
def Command.selectors : Command → List String
  | ⟨_, _, body⟩ => body.selectors

def Body.selectors : Body → List String
  | .sequence steps => Step.selectorsAll steps
  | .option branches => Branch.selectorsAll branches
  | .listener ⟨_, _, _, _, step⟩ => step.selectors
  | _ => []

def Step.selectors : Step → List String
  | .reference _ _ => []
  | .inline command => command.selectors

def Step.selectorsAll : List Step → List String
  | [] => []
  | step :: steps => step.selectors ++ Step.selectorsAll steps

def Branch.selectorsAll : List Branch → List String
  | [] => []
  | ⟨selector, step⟩ :: branches =>
    selector.toList ++ step.selectors ++ Branch.selectorsAll branches

end

theorem Command.content_name (command : Command) : command.content.name = command.name := by
  cases command
  rfl

end CommandBot
