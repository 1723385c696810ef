import CommandBot.Command

namespace CommandBot

mutual

/-- The command with canonical class names, also in what it refers to. A command records the class
name that its entry spells, and nothing that it does depends on the spelling. -/
def Command.canonical : Command → Command
  | ⟨name, _, body⟩ => ⟨name, body.classTag.name, body.canonical⟩

def Body.canonical : Body → Body
  | .shorthand target fixed => .shorthand target.canonical fixed
  | .sequence steps => .sequence (Step.canonicalAll steps)
  | .option branches => .option (Branch.canonicalAll branches)
  | .listener spec => .listener spec.canonical
  | body => body

def Listener.canonical : Listener → Listener
  | ⟨place, trigger, user, temporary, step⟩ => ⟨place, trigger, user, temporary, step.canonical⟩

def Step.canonical : Step → Step
  | .reference target leading => .reference target.canonical leading
  | .inline command => .inline command.canonical

def Step.canonicalAll : List Step → List Step
  | [] => []
  | step :: steps => step.canonical :: Step.canonicalAll steps

def Branch.canonicalAll : List Branch → List Branch
  | [] => []
  | ⟨selector, step⟩ :: branches => ⟨selector, step.canonical⟩ :: Branch.canonicalAll branches

end

/-- A command is registered under the same name, so tables keep their keys. -/
@[simp] theorem Command.canonical_name (command : Command) :
    command.canonical.name = command.name := by
  cases command
  rfl

/-! ### Branches -/

namespace Branch

/-- The branch with canonical class names. -/
def canonical (branch : Branch) : Branch := ⟨branch.selector, branch.step.canonical⟩

/-- The recursion over branches is a map, so lookups by position pass through it. -/
theorem canonicalAll_eq_map (branches : List Branch) :
    canonicalAll branches = branches.map canonical := by
  induction branches with
  | nil => rfl
  | cons branch branches ih =>
    obtain ⟨selector, step⟩ := branch
    rw [canonicalAll, ih, List.map_cons]
    rfl

/-- Branches answer to the same words: a selector stays, and so does the name of the command that a
step refers to. -/
theorem word?_canonical (branch : Branch) : branch.canonical.word? = branch.word? := by
  obtain ⟨selector, step⟩ := branch
  cases step with
  | reference target leading => simp [canonical, word?, Step.canonical, Step.targetName?]
  | inline command => rfl

/-- A word selects the same branch, since selectors and names stay. -/
theorem select?_canonicalAll (branches : List Branch) (word : String) :
    select? (canonicalAll branches) word = select? branches word := by
  have hfound : (canonicalAll branches).findIdx? (·.word? == some word) =
      branches.findIdx? (·.word? == some word) := by
    rw [canonicalAll_eq_map, List.findIdx?_map]
    congr 1
    funext branch
    rw [Function.comp_apply, word?_canonical]
  unfold select?
  rw [hfound, canonicalAll_eq_map, List.length_map]

end Branch

/-! ### Listeners -/

namespace Listener

@[simp] theorem canonical_place (listener : Listener) :
    listener.canonical.place = listener.place := by
  cases listener
  rfl

@[simp] theorem canonical_trigger (listener : Listener) :
    listener.canonical.trigger = listener.trigger := by
  cases listener
  rfl

@[simp] theorem canonical_temporary (listener : Listener) :
    listener.canonical.temporary = listener.temporary := by
  cases listener
  rfl

@[simp] theorem canonical_step (listener : Listener) :
    listener.canonical.step = listener.step.canonical := by
  cases listener
  rfl

/-- A listener hears the same messages; only what it then runs is respelled. -/
@[simp] theorem hears_canonical (listener : Listener) (user text : String) :
    listener.canonical.hears user text = listener.hears user text := by
  cases listener
  rfl

end Listener

end CommandBot
