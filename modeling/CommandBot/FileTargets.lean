import CommandBot.Bot

/-!
The paths that a bot may write: the files of its commands at any depth.
-/

namespace CommandBot

mutual

/-- The files of a command. Commands that it refers to are left out: they are commands of the bot
themselves. -/
def Command.fileTargets : Command → List String
  | ⟨_, _, body⟩ => body.fileTargets

/-- The files of what a command does. -/
def Body.fileTargets : Body → List String
  | .sequence steps => Step.allFileTargets steps
  | .option branches => Branch.allFileTargets branches
  | .file path => [path]
  | .listener ⟨_, _, _, _, step⟩ => step.fileTargets
  | .echo _ | .shorthand .. | .state _ | .info _ | .format _ => []

/-- The files of a step. -/
def Step.fileTargets : Step → List String
  | .reference .. => []
  | .inline command => command.fileTargets

/-- The files of steps. -/
def Step.allFileTargets : List Step → List String
  | [] => []
  | step :: steps => step.fileTargets ++ Step.allFileTargets steps

/-- The files of branches. -/
def Branch.allFileTargets : List Branch → List String
  | [] => []
  | ⟨_, step⟩ :: branches => step.fileTargets ++ Branch.allFileTargets branches

end

/-- The files of a bot. -/
def Bot.fileTargets (bot : Bot) : List String :=
  (bot.commands.entries.flatMap fun entry => entry.2.fileTargets) ++
    bot.hooks.entries.flatMap fun entry => entry.2.fileTargets

end CommandBot
