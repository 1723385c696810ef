import CommandBot.Proofs.Command.Leaves
import CommandBot.Run

namespace CommandBot

/-- What a command comes to: the call of a leaf, or an option that selects no branch. -/
inductive Call where
  | leaf (command : Command) (args : List String)
  | unselected (option word : String)

mutual

/-- The calls that a command comes to with these arguments, in order. Composites route arguments and
do nothing else, so neither the user nor the world has a say in it. -/
def Command.plan : Command → List String → List Call
  | ⟨name, classAlias, body⟩, args => body.plan name classAlias args

/-- The calls that the body of a command comes to. A leaf comes to itself. -/
def Body.plan (name classAlias : String) : Body → List String → List Call
  | .shorthand target fixed, _ => target.plan fixed
  | .sequence steps, args => Step.planAll args steps
  | .option branches, args =>
    match args with
    | [] => [.unselected name ""]
    | word :: rest =>
      match Branch.select? branches word with
      | some index => Branch.planAt rest (.unselected name word) branches index
      | none => [.unselected name word]
  | leaf, args => [.leaf ⟨name, classAlias, leaf⟩ args]

def Step.plan : Step → List String → List Call
  | .reference target leading, args => target.plan (leading ++ args)
  | .inline command, args => command.plan args

def Step.planAll (args : List String) : List Step → List Call
  | [] => []
  | step :: steps => step.plan args ++ Step.planAll args steps

/-- The calls of the branch at an index. -/
def Branch.planAt (args : List String) (missing : Call) : List Branch → Nat → List Call
  | [], _ => [missing]
  | ⟨_, step⟩ :: _, 0 => step.plan args
  | _ :: branches, index + 1 => Branch.planAt args missing branches index

end

mutual

/-- The way that the arguments take down a command's tree leads to a sequence. -/
def Command.meetsSequence : Command → List String → Bool
  | ⟨_, _, body⟩, args => body.meetsSequence args

def Body.meetsSequence : Body → List String → Bool
  | .shorthand target fixed, _ => target.meetsSequence fixed
  | .sequence _, _ => true
  | .option branches, args =>
    match args with
    | [] => false
    | word :: rest =>
      match Branch.select? branches word with
      | some index => Branch.meetsSequenceAt rest branches index
      | none => false
  | _, _ => false

def Step.meetsSequence : Step → List String → Bool
  | .reference target leading, args => target.meetsSequence (leading ++ args)
  | .inline command, args => command.meetsSequence args

def Branch.meetsSequenceAt (args : List String) : List Branch → Nat → Bool
  | [], _ => false
  | ⟨_, step⟩ :: _, 0 => step.meetsSequence args
  | _ :: branches, index + 1 => Branch.meetsSequenceAt args branches index

end

/-! ### Leaves of a plan -/

/-- Only leaves are called. -/
def Call.IsOfLeaf : Call → Prop
  | .leaf command _ => command.body.isLeaf = true
  | .unselected .. => True

mutual

/-- A plan has calls of leaves only, and options that select nothing. -/
theorem Command.plan_ofLeaves :
    ∀ (command : Command) (args : List String), ∀ call ∈ command.plan args, call.IsOfLeaf
  | ⟨name, classAlias, body⟩, args => Body.plan_ofLeaves name classAlias body args

theorem Body.plan_ofLeaves (name classAlias : String) :
    ∀ (body : Body) (args : List String), ∀ call ∈ body.plan name classAlias args, call.IsOfLeaf
  | .shorthand target fixed, _ => Command.plan_ofLeaves target fixed
  | .sequence steps, args => Step.planAll_ofLeaves args steps
  | .option branches, args => by
    cases args with
    | nil => simp [Body.plan, Call.IsOfLeaf]
    | cons word rest =>
      simp only [Body.plan]
      cases Branch.select? branches word with
      | none => simp [Call.IsOfLeaf]
      | some index =>
        exact Branch.planAt_ofLeaves branches rest (.unselected name word) trivial index
  | .echo _, _ | .state _, _ | .file _, _ | .info _, _ | .format _, _ | .listener _, _ => by
    simp [Body.plan, Call.IsOfLeaf, Body.isLeaf]

theorem Step.plan_ofLeaves :
    ∀ (step : Step) (args : List String), ∀ call ∈ step.plan args, call.IsOfLeaf
  | .reference target leading, args => Command.plan_ofLeaves target (leading ++ args)
  | .inline command, args => Command.plan_ofLeaves command args

theorem Step.planAll_ofLeaves (args : List String) :
    ∀ (steps : List Step), ∀ call ∈ Step.planAll args steps, call.IsOfLeaf
  | [] => by simp [Step.planAll]
  | step :: steps => by
    intro call hcall
    rw [Step.planAll] at hcall
    rcases List.mem_append.1 hcall with hcall | hcall
    · exact Step.plan_ofLeaves step args call hcall
    · exact Step.planAll_ofLeaves args steps call hcall

theorem Branch.planAt_ofLeaves :
    ∀ (branches : List Branch) (args : List String) (missing : Call), missing.IsOfLeaf →
      ∀ index, ∀ call ∈ Branch.planAt args missing branches index, call.IsOfLeaf
  | [], args, missing, hmissing, index => by
    simpa [Branch.planAt] using hmissing
  | ⟨_, step⟩ :: branches, args, missing, hmissing, index => by
    cases index with
    | zero => exact Step.plan_ofLeaves step args
    | succ index => exact Branch.planAt_ofLeaves branches args missing hmissing index

end

/-! ### Running a plan -/

namespace Call

variable {onStore : OnStore}

/-- Runs one call. -/
def run (onStore : OnStore) : Call → World → Outcome
  | leaf command args, world => command.run onStore args world
  | unselected option word, world => .fails (.noMatchingOption option word) world

/-- Runs calls one after the other, each in the world that the ones before it leave behind. It says
the lines of those that succeed. -/
def runAll (onStore : OnStore) : List Call → World → Outcome
  | [], world => .done [] world
  | call :: calls, world =>
    let first := call.run onStore world
    let later := runAll onStore calls first.world
    ⟨.ok (first.lines ++ later.lines), later.world, first.journal ++ later.journal⟩

theorem runAll_singleton (call : Call) (world : World) :
    runAll onStore [call] world =
      ⟨.ok (call.run onStore world).lines, (call.run onStore world).world,
        (call.run onStore world).journal⟩ := by
  simp [runAll, Outcome.done, Outcome.lines]

/-- Calls may be run in two parts, the later ones in the world that the earlier ones leave. -/
theorem runAll_append (calls later : List Call) (world : World) :
    runAll onStore (calls ++ later) world =
      let first := runAll onStore calls world
      let second := runAll onStore later first.world
      ⟨.ok (first.lines ++ second.lines), second.world, first.journal ++ second.journal⟩ := by
  induction calls generalizing world with
  | nil =>
    cases later with
    | nil => rfl
    | cons call later => rfl
  | cons call calls ih =>
    simp only [List.cons_append, runAll, ih, Outcome.lines, List.append_assoc]

end Call

/-- What notes the course of a run: where commands start and are left, and what a sequence tells of
its failed steps. -/
def Event.isCourse : Event → Bool
  | .entered _ | .left | .reported (.step ..) => true
  | _ => false

/-- A journal without the course of the run: what is stored, which hooks start and end, which files
are written, what is attached and what fails. -/
def Journal.effects (journal : Journal) : Journal := journal.filter (!·.isCourse)

theorem Journal.effects_append (journal later : Journal) :
    effects (journal ++ later) = effects journal ++ effects later :=
  List.filter_append ..

theorem Journal.effects_eq_nil {journal : Journal} (h : ∀ event ∈ journal, event.isCourse = true) :
    journal.effects = [] := by
  apply List.filter_eq_nil_iff.2
  intro event hevent
  simp [h event hevent]

theorem Outcome.within_effects (command : String) (outcome : Outcome) :
    (outcome.within command).journal.effects = outcome.journal.effects := by
  simp [Outcome.within, Journal.effects, Event.isCourse]

theorem Progress.finish_effects (sequence : String) (progress : Progress) :
    (progress.finish sequence).journal.effects = progress.journal.effects := by
  rw [Progress.finish, Journal.effects_append]
  apply List.append_right_eq_self.2
  apply Journal.effects_eq_nil
  intro event hevent
  obtain ⟨failure, _, rfl⟩ := List.mem_map.1 hevent
  rfl

/-- A run does what these calls do: it says the same, leaves the same world and has the same
effects. On a way without a sequence there is one call, and the run ends as that call does; a
sequence always succeeds. -/
structure Outcome.Performs (onStore : OnStore) (calls : List Call) (sequenced : Bool)
    (world : World) (outcome : Outcome) : Prop where
  lines : outcome.lines = (Call.runAll onStore calls world).lines
  final : outcome.world = (Call.runAll onStore calls world).world
  effects : outcome.journal.effects = (Call.runAll onStore calls world).journal.effects
  routed : sequenced = false →
    ∃ call, calls = [call] ∧ outcome.result = (call.run onStore world).result
  gathered : sequenced = true → ∃ lines, outcome.result = .ok lines

section Performing

variable {onStore : OnStore} {world : World}

theorem Call.performs (call : Call) (world : World) :
    (call.run onStore world).Performs onStore [call] false world where
  lines := by
    rw [runAll_singleton]
    rfl
  final := by rw [runAll_singleton]
  effects := by rw [runAll_singleton]
  routed _ := ⟨call, rfl, rfl⟩
  gathered := by
    rintro ⟨⟩

/-- Entering and leaving a command adds to the course of a run and to nothing else. -/
theorem Outcome.Performs.within {calls : List Call} {sequenced : Bool} {outcome : Outcome}
    (name : String) (h : outcome.Performs onStore calls sequenced world) :
    (outcome.within name).Performs onStore calls sequenced world where
  lines := h.lines
  final := h.final
  effects := by
    rw [Outcome.within_effects]
    exact h.effects
  routed := h.routed
  gathered := h.gathered

mutual

/-- Running a command is running the calls of its plan. By induction down the tree; a sequence is
the only place at which calls are put together. -/
theorem Command.run_performs : ∀ (command : Command) (args : List String) (world : World),
    (command.run onStore args world).Performs onStore (command.plan args)
      (command.meetsSequence args) world
  | ⟨name, classAlias, body⟩, args, world => Body.run_performs name classAlias body args world

/-- The marks of the command stand around what its body does, so they belong to the call where the
body is a leaf. -/
theorem Body.run_performs (name classAlias : String) :
    ∀ (body : Body) (args : List String) (world : World),
      ((body.run onStore name args world).within name).Performs onStore
        (body.plan name classAlias args) (body.meetsSequence args) world
  | .shorthand target fixed, _, world => (Command.run_performs target fixed world).within name
  | .sequence steps, args, world => by
    obtain ⟨hlines, hworld, heffects⟩ := Step.runAll_performs args steps 1 world
    refine Outcome.Performs.within name ⟨hlines, hworld, ?_, ?_, ?_⟩
    · rw [Body.run, Progress.finish_effects]
      exact heffects
    · rintro ⟨⟩
    · intro _
      exact ⟨_, rfl⟩
  | .option branches, args, world => by
    apply Outcome.Performs.within
    cases args with
    | nil => exact Call.performs (.unselected name "") world
    | cons word rest =>
      simp only [Body.run, Body.plan, Body.meetsSequence]
      cases Branch.select? branches word with
      | none => exact Call.performs (.unselected name word) world
      | some index => exact Branch.runAt_performs name word branches rest index world
  | .echo target, args, world => Call.performs (.leaf ⟨name, classAlias, .echo target⟩ args) world
  | .state key, args, world => Call.performs (.leaf ⟨name, classAlias, .state key⟩ args) world
  | .file path, args, world => Call.performs (.leaf ⟨name, classAlias, .file path⟩ args) world
  | .info text, args, world => Call.performs (.leaf ⟨name, classAlias, .info text⟩ args) world
  | .format template, args, world =>
    Call.performs (.leaf ⟨name, classAlias, .format template⟩ args) world
  | .listener spec, args, world =>
    Call.performs (.leaf ⟨name, classAlias, .listener spec⟩ args) world

theorem Step.run_performs : ∀ (step : Step) (args : List String) (world : World),
    (step.run onStore args world).Performs onStore (step.plan args) (step.meetsSequence args) world
  | .reference target leading, args, world => Command.run_performs target (leading ++ args) world
  | .inline command, args, world => Command.run_performs command args world

/-- The steps of a sequence perform their plans one after the other. A step that fails is passed
over, and the next one starts in the world that it leaves. -/
theorem Step.runAll_performs (args : List String) :
    ∀ (steps : List Step) (position : Nat) (world : World),
      let progress := Step.runAll onStore args position steps world
      let planned := Call.runAll onStore (Step.planAll args steps) world
      progress.lines = planned.lines ∧ progress.world = planned.world ∧
        progress.journal.effects = planned.journal.effects
  | [], _, _ => ⟨rfl, rfl, rfl⟩
  | step :: steps, position, world => by
    have hfirst := Step.run_performs step args world
    obtain ⟨hlines, hworld, heffects⟩ := Step.runAll_performs args steps (position + 1)
      (step.run onStore args world).world
    rw [hfirst.final] at hlines hworld heffects
    rw [Step.runAll, Step.planAll, Call.runAll_append]
    dsimp only [Progress.after]
    rw [Journal.effects_append, Journal.effects_append, hfirst.lines, hfirst.effects, hfirst.final]
    exact ⟨congrArg _ hlines, hworld, congrArg _ heffects⟩

/-- An index beyond the branches performs the one call of an option that selects nothing. -/
theorem Branch.runAt_performs (name word : String) :
    ∀ (branches : List Branch) (args : List String) (index : Nat) (world : World),
      (Branch.runAt onStore args (.noMatchingOption name word) branches index world).Performs
        onStore (Branch.planAt args (.unselected name word) branches index)
        (Branch.meetsSequenceAt args branches index) world
  | [], _, _, world => Call.performs (.unselected name word) world
  | ⟨_, step⟩ :: branches, args, index, world => by
    cases index with
    | zero => exact Step.run_performs step args world
    | succ index => exact Branch.runAt_performs name word branches args index world

end

end Performing

/-- Composites only route arguments. Whichever hooks are armed and whoever the user is, running a
command has exactly the effects of the calls of its plan, run one after the other in that context,
and says the lines of those that succeed, in order. The plan is the same for every user and world.
If the command fails, the arguments met no sequence on their way, so that the plan is a single call,
and it is that call that failed. -/
theorem Command.run_performs_plan (armed : Hooks) (user : String) (command : Command)
    (args : List String) (world : World) :
    let outcome := command.run (armed.onStore user) args world
    let planned := Call.runAll (armed.onStore user) (command.plan args) world
    outcome.lines = planned.lines ∧ outcome.world = planned.world ∧
      outcome.journal.effects = planned.journal.effects ∧
      (∀ error, outcome.result = .error error →
        command.meetsSequence args = false ∧ ∃ call, command.plan args = [call] ∧
          (call.run (armed.onStore user) world).result = .error error) ∧
      ∀ call ∈ command.plan args, call.IsOfLeaf := by
  have hperforms : (command.run (armed.onStore user) args world).Performs (armed.onStore user)
      (command.plan args) (command.meetsSequence args) world :=
    Command.run_performs command args world
  refine ⟨hperforms.lines, hperforms.final, hperforms.effects, ?_, command.plan_ofLeaves args⟩
  intro error herror
  cases hmeets : command.meetsSequence args with
  | true =>
    obtain ⟨lines, hok⟩ := hperforms.gathered hmeets
    rw [hok] at herror
    cases herror
  | false =>
    obtain ⟨call, hplan, hresult⟩ := hperforms.routed hmeets
    exact ⟨rfl, call, hplan, hresult ▸ herror⟩

-- The argument of a reference goes before the caller's, so it is the one that selects the branch.
example :
    let hello : Command := ⟨"", "InfoCommand", .info "hello"⟩
    let pick : Command := ⟨"pick", "OptionCommand", .option [⟨some "hi", .inline hello⟩]⟩
    let both : Command := ⟨"both", "SequenceCommand",
      .sequence [.reference pick ["hi"], .reference pick []]⟩
    both.plan ["there"] = [.leaf hello ["there"], .unselected "pick" "there"] := by
  rfl

end CommandBot
