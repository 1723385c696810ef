import CommandBot.Bot
import CommandBot.Proofs.Command.Leaves

namespace CommandBot

mutual

/-- The height of a command's tree: how many commands can stand inside one another on the way down,
references and alias targets being followed. What a listener runs does not run with the command that
attaches it, so it does not count. -/
def Command.height : Command → Nat
  | ⟨_, _, body⟩ => body.height + 1

def Body.height : Body → Nat
  | .shorthand target _ => target.height
  | .sequence steps => Step.heightAll steps
  | .option branches => Branch.heightAll branches
  | _ => 0

def Step.height : Step → Nat
  | .reference target _ => target.height
  | .inline command => command.height

def Step.heightAll : List Step → Nat
  | [] => 0
  | step :: steps => max step.height (Step.heightAll steps)

def Branch.heightAll : List Branch → Nat
  | [] => 0
  | ⟨_, step⟩ :: branches => max step.height (Branch.heightAll branches)

end

namespace Bot

/-- Every listener that a bot can bring about: from a command, from a hook or from another
listener. -/
def listeners (bot : Bot) : List Listener :=
  bot.commands.entries.flatMap (·.2.listeners) ++ bot.hooks.entries.flatMap (·.2.listeners)

/-- The heights of all that a bot may be asked to run: its commands, its hooks and its
listeners. -/
def heights (bot : Bot) : List Nat :=
  bot.commands.entries.map (·.2.height) ++ bot.hooks.entries.map (·.2.height) ++
    bot.listeners.map (·.step.height)

/-- The greatest of these heights. -/
def height (bot : Bot) : Nat := bot.heights.foldr max 0

/-- What a command can bring about, its bot can bring about. -/
theorem command_listeners_subset {bot : Bot} {name : String} {command : Command}
    (h : bot.commands.get? name = some command) : command.listeners ⊆ bot.listeners := by
  intro spec hspec
  exact List.mem_append_left _ (List.mem_flatMap.2 ⟨_, Table.mem_of_find h, hspec⟩)

theorem hook_listeners_subset {bot : Bot} {key : String} {step : Step}
    (h : bot.hooks.get? key = some step) : step.listeners ⊆ bot.listeners := by
  intro spec hspec
  exact List.mem_append_right _ (List.mem_flatMap.2 ⟨_, Table.mem_of_find h, hspec⟩)

/-- A listener that another one attaches is among the bot's listeners too, so a bound over these
covers whatever a message may set off. -/
theorem listeners_closed (bot : Bot) : Listener.Closed bot.listeners := by
  have hcommands : Listener.Closed (bot.commands.entries.flatMap (·.2.listeners)) :=
    .flatMap fun entry _ => Command.listeners_closed entry.2
  have hhooks : Listener.Closed (bot.hooks.entries.flatMap (·.2.listeners)) :=
    .flatMap fun entry _ => Step.listeners_closed entry.2
  exact hcommands.append hhooks

theorem le_height_of_mem {bot : Bot} {n : Nat} (h : n ∈ bot.heights) : n ≤ bot.height := by
  unfold height
  generalize bot.heights = heights at h
  induction heights with
  | nil => cases h
  | cons m heights ih =>
    rw [List.foldr_cons]
    rcases List.mem_cons.1 h with rfl | h
    · exact Nat.le_max_left _ _
    · exact Nat.le_trans (ih h) (Nat.le_max_right _ _)

/-- No command of a bot is higher than the bot. -/
theorem command_height_le {bot : Bot} {name : String} {command : Command}
    (h : bot.commands.get? name = some command) : command.height ≤ bot.height := by
  apply le_height_of_mem
  have hmem := List.mem_map_of_mem (f := fun e => e.2.height) (Table.mem_of_find h)
  exact List.mem_append_left _ (List.mem_append_left _ hmem)

theorem hook_height_le {bot : Bot} {key : String} {step : Step}
    (h : bot.hooks.get? key = some step) : step.height ≤ bot.height := by
  apply le_height_of_mem
  have hmem := List.mem_map_of_mem (f := fun e => e.2.height) (Table.mem_of_find h)
  exact List.mem_append_left _ (List.mem_append_right _ hmem)

theorem listener_height_le {bot : Bot} {spec : Listener} (h : spec ∈ bot.listeners) :
    spec.step.height ≤ bot.height := by
  apply le_height_of_mem
  have hmem := List.mem_map_of_mem (f := fun spec => spec.step.height) h
  exact List.mem_append_right _ hmem

end Bot

end CommandBot
