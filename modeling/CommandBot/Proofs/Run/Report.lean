import CommandBot.Proofs.Run.Store

namespace CommandBot

/-- The failure that arises at an event. -/
def Event.failure? : Event → Option Error
  | .failed error => some error
  | _ => none

/-- The report that an event makes. -/
def Event.report? : Event → Option Report
  | .reported report => some report
  | _ => none

namespace Journal

/-- The failures that arise in a journal, in order. -/
def failures (journal : Journal) : List Error := journal.filterMap Event.failure?

/-- The failures that are told in a journal, in order. -/
def reports (journal : Journal) : List Report := journal.filterMap Event.report?

theorem failures_append (journal later : Journal) :
    failures (journal ++ later) = failures journal ++ failures later :=
  List.filterMap_append

theorem reports_append (journal later : Journal) :
    reports (journal ++ later) = reports journal ++ reports later :=
  List.filterMap_append

/-- The failures that arise in a journal are told in it, each of them once, but for those that are
still to be told. A failure travels upwards until a sequence or a hook stops it, and there it is
told. -/
def Accounts (journal : Journal) (pending : List Error) : Prop :=
  journal.failures.Perm (journal.reports.map Report.error ++ pending)

/-- Events that have nothing to do with failures account for themselves. -/
theorem accounts_of_neither {journal : Journal} (hfailures : journal.failures = [])
    (hreports : journal.reports = []) : journal.Accounts [] := by
  unfold Accounts
  rw [hfailures, hreports]
  exact .nil

/-- A failure that has just arisen is still to be told. -/
theorem accounts_failed (error : Error) : Accounts [.failed error] [error] := .refl _

/-- Telling all that is still to be told settles the account. -/
theorem accounts_reported {told : List Report} {journal : Journal}
    (h : journal.Accounts (told.map Report.error)) :
    (journal ++ told.map Event.reported).Accounts [] := by
  have hfailures : failures (told.map Event.reported) = [] := by
    unfold failures
    rw [List.filterMap_map]
    exact List.filterMap_eq_nil_iff.2 fun report _ => rfl
  have hreports : reports (told.map Event.reported) = told := by
    unfold reports
    rw [List.filterMap_map]
    exact List.filterMap_some
  unfold Accounts at h ⊢
  rw [failures_append, reports_append, hfailures, hreports, List.append_nil, List.append_nil,
    List.map_append]
  exact h

/-- Accounts of journals one after the other are put together. -/
theorem Accounts.append {journal later : Journal} {pending more : List Error}
    (h : journal.Accounts pending) (hlater : later.Accounts more) :
    (journal ++ later).Accounts (pending ++ more) := by
  unfold Accounts at h hlater ⊢
  rw [failures_append, reports_append, List.map_append]
  refine (h.append hlater).trans ?_
  simp only [List.append_assoc]
  refine List.Perm.append_left _ ?_
  simp only [← List.append_assoc]
  exact List.perm_append_comm.append_right _

theorem accounts_flatMap {α : Type} {parts : List α} {journal : α → Journal}
    (h : ∀ part ∈ parts, (journal part).Accounts []) :
    Accounts (parts.flatMap journal) [] := by
  induction parts with
  | nil => exact accounts_of_neither rfl rfl
  | cons part parts ih =>
    obtain ⟨hpart, hlater⟩ := List.forall_mem_cons.1 h
    exact hpart.append (ih hlater)

/-- Marks around a journal change nothing in what it accounts for. -/
theorem Accounts.between (before after : Journal) {journal : Journal} {pending : List Error}
    (h : journal.Accounts pending) (hbefore : before.Accounts []) (hafter : after.Accounts []) :
    (before ++ journal ++ after).Accounts pending := by
  have hmarked := (hbefore.append h).append hafter
  rw [List.nil_append, List.append_nil] at hmarked
  exact hmarked

/-- The records of a journal that warn the operator. -/
def warnings (journal : Journal) : List LogRecord := journal.log.filter (·.level == .warn)

/-- Nothing but the report of a failure warns the operator. -/
theorem warnings_eq (journal : Journal) :
    journal.warnings = journal.reports.map fun report => ⟨.warn, report.message⟩ := by
  have hevent : (fun event : Event => event.record?.filter (·.level == .warn)) =
      fun event => event.report?.map fun report => ⟨.warn, report.message⟩ := by
    funext event
    cases event <;> rfl
  unfold warnings log reports
  rw [List.filter_filterMap, List.map_filterMap, hevent]

end Journal

/-- A report closes with the wording of the failure. -/
theorem Report.exists_message_eq (report : Report) :
    ∃ lead, report.message = lead ++ report.error.message := by
  cases report with
  | hook key error => exact ⟨_, rfl⟩
  | step sequence position error => exact ⟨_, rfl⟩
  | command name user error => exact ⟨_, rfl⟩
  | listener trigger error => exact ⟨_, rfl⟩

/-- The error of a run that fails. -/
def Outcome.error? (outcome : Outcome) : Option Error :=
  match outcome.result with
  | .ok _ => none
  | .error error => some error

/-- The failures of a run are told in it, but for the one that it ends with. -/
def Outcome.Accounts (outcome : Outcome) : Prop := outcome.journal.Accounts outcome.error?.toList

/-- Entering and leaving a command is no failure. -/
theorem Outcome.Accounts.within {outcome : Outcome} (name : String) (h : outcome.Accounts) :
    (outcome.within name).Accounts :=
  Journal.Accounts.between [.entered name] [.left] h (Journal.accounts_of_neither rfl rfl)
    (Journal.accounts_of_neither rfl rfl)

/-- Where a failure is stopped, it is told. -/
theorem Outcome.Accounts.settle {outcome : Outcome} (report : Error → Report) (h : outcome.Accounts)
    (hreport : ∀ error, (report error).error = error) :
    (outcome.settle report).journal.Accounts [] := by
  unfold Accounts error? at h
  unfold Outcome.settle
  cases hresult : outcome.result with
  | ok lines =>
    rw [hresult] at h
    exact h
  | error error =>
    rw [hresult] at h
    have htold : outcome.journal.Accounts ([report error].map Report.error) := by
      rw [List.map_singleton, hreport error]
      exact h
    exact Journal.accounts_reported htold

/-! ### Sequences -/

/-- What the steps of a sequence come to, each in the world that the one before it leaves. -/
def Step.outcomes (onStore : OnStore) (args : List String) : List Step → World → List Outcome
  | [], _ => []
  | step :: steps, world =>
    let outcome := step.run onStore args world
    outcome :: Step.outcomes onStore args steps outcome.world

/-- What a sequence tells of its steps: the failures in order, each with the position of its step,
counted from 1. -/
def Outcome.stepReports (sequence : String) (outcomes : List Outcome) : List Report :=
  (outcomes.zipIdx 1).filterMap fun (outcome, position) =>
    outcome.error?.map (.step sequence position)

/-- The reports of a sequence tell the failures of its steps, in order. -/
theorem Outcome.stepReports_error (sequence : String) (outcomes : List Outcome) :
    (stepReports sequence outcomes).map Report.error = outcomes.filterMap error? := by
  have hstep : (fun part : Outcome × Nat =>
      (part.1.error?.map (Report.step sequence part.2)).map Report.error) =
        error? ∘ Prod.fst := by
    funext part
    rw [Function.comp_apply]
    cases part.1.error? <;> rfl
  unfold stepReports
  rw [List.map_filterMap, hstep, ← List.filterMap_map, List.zipIdx_map_fst]

section Sequences

variable (onStore : OnStore) (args : List String)

/-- What the steps of a sequence come to together is put together from what each of them comes to:
their lines, their journals, and the failure of each that fails, with its position. -/
theorem Step.runAll_eq (steps : List Step) (position : Nat) (world : World) :
    let progress := Step.runAll onStore args position steps world
    let outcomes := Step.outcomes onStore args steps world
    progress.lines = outcomes.flatMap Outcome.lines ∧
      progress.journal = outcomes.flatMap Outcome.journal ∧
      progress.failures = (outcomes.zipIdx position).filterMap fun (outcome, position) =>
        outcome.error?.map (position, ·) := by
  induction steps generalizing position world with
  | nil => exact ⟨rfl, rfl, rfl⟩
  | cons step steps ih =>
    obtain ⟨hlines, hjournal, hfailures⟩ := ih (position + 1) (step.run onStore args world).world
    dsimp only [Step.runAll, Step.outcomes, Progress.after]
    refine ⟨congrArg _ hlines, congrArg _ hjournal, ?_⟩
    rw [List.zipIdx_cons, List.filterMap_cons, hfailures]
    unfold Outcome.error?
    cases (step.run onStore args world).result <;> rfl

/-- A sequence succeeds with the lines of the steps that do. Its own records come after all that
happens in its steps. -/
theorem Body.run_sequence (name : String) (steps : List Step) (world : World) :
    let outcomes := Step.outcomes onStore args steps world
    let outcome := (Body.sequence steps).run onStore name args world
    outcome.result = .ok (outcomes.flatMap Outcome.lines) ∧
      outcome.journal = outcomes.flatMap Outcome.journal ++
        (Outcome.stepReports name outcomes).map .reported := by
  obtain ⟨hlines, hjournal, hfailures⟩ := Step.runAll_eq onStore args steps 1 world
  dsimp only [Body.run, Progress.finish]
  unfold Outcome.stepReports
  rw [hlines, hjournal, hfailures, List.map_filterMap, List.map_filterMap]
  refine ⟨rfl, ?_⟩
  congr 2
  funext part
  obtain ⟨outcome, position⟩ := part
  dsimp only
  cases outcome.error? <;> rfl

end Sequences

/-! ### Runs -/

/-- Steps leave to be told what they end with, and nothing else. -/
theorem Outcome.accounts_flatMap {outcomes : List Outcome}
    (h : ∀ outcome ∈ outcomes, outcome.Accounts) :
    Journal.Accounts (outcomes.flatMap Outcome.journal) (outcomes.filterMap error?) := by
  induction outcomes with
  | nil => exact Journal.accounts_of_neither rfl rfl
  | cons outcome outcomes ih =>
    obtain ⟨houtcome, hlater⟩ := List.forall_mem_cons.1 h
    have hboth := houtcome.append (ih hlater)
    rw [List.flatMap_cons, List.filterMap_cons]
    cases herror : outcome.error? with
    | none =>
      rw [herror] at hboth
      exact hboth
    | some error =>
      rw [herror] at hboth
      exact hboth

section Accounting

variable {onStore : OnStore}

mutual

/-- A command accounts for its failures if storing a value does. By induction on the command: a
sequence is where failures stop, and everything else passes on the one that it gets. -/
theorem Command.run_accounts (hstore : ∀ key args world, (onStore key args world).Accounts) :
    ∀ (command : Command) (args : List String) (world : World),
      (command.run onStore args world).Accounts
  | ⟨name, _, body⟩, args, world => (Body.run_accounts hstore name body args world).within name

/-- A leaf tells nothing, and ends with the one failure that it has. -/
theorem Body.run_accounts (hstore : ∀ key args world, (onStore key args world).Accounts)
    (name : String) : ∀ (body : Body) (args : List String) (world : World),
      (body.run onStore name args world).Accounts
  | .shorthand target fixed, _, world => Command.run_accounts hstore target fixed world
  | .sequence steps, args, world => by
    obtain ⟨hresult, hjournal⟩ := Body.run_sequence onStore args name steps world
    have hsteps := Outcome.accounts_flatMap (Step.outcomes_account hstore args steps world)
    rw [← Outcome.stepReports_error name] at hsteps
    unfold Outcome.Accounts Outcome.error?
    rw [hresult, hjournal]
    exact Journal.accounts_reported hsteps
  | .option branches, args, world => by
    cases args with
    | nil => exact Journal.accounts_failed _
    | cons word rest =>
      rw [Body.run]
      split
      · exact Branch.runAt_accounts hstore rest _ branches _ world
      · exact Journal.accounts_failed _
  | .state key, args, world => hstore key args world
  | .echo target, args, world => by
    rw [Body.run, runEcho]
    split
    · exact Journal.accounts_failed _
    · exact Journal.accounts_of_neither rfl rfl
  | .file path, args, world => by
    rw [Body.run, runFile]
    split
    · exact Journal.accounts_of_neither rfl rfl
    · exact Journal.accounts_failed _
  | .info _, _, _ | .format _, _, _ => Journal.accounts_of_neither rfl rfl
  | .listener spec, _, world => by
    rw [Body.run, runListener]
    split
    · exact Journal.accounts_of_neither rfl rfl
    · exact Journal.accounts_of_neither rfl rfl

theorem Step.run_accounts (hstore : ∀ key args world, (onStore key args world).Accounts) :
    ∀ (step : Step) (args : List String) (world : World), (step.run onStore args world).Accounts
  | .reference target leading, args, world =>
    Command.run_accounts hstore target (leading ++ args) world
  | .inline command, args, world => Command.run_accounts hstore command args world

/-- Each step of a sequence accounts for its failures, whatever world the steps before it leave. -/
theorem Step.outcomes_account (hstore : ∀ key args world, (onStore key args world).Accounts)
    (args : List String) : ∀ (steps : List Step) (world : World),
      ∀ outcome ∈ Step.outcomes onStore args steps world, outcome.Accounts
  | [], _ => by
    intro outcome houtcome
    cases houtcome
  | step :: steps, world => by
    have hfirst := Step.run_accounts hstore step args world
    have hlater := Step.outcomes_account hstore args steps (step.run onStore args world).world
    exact List.forall_mem_cons.2 ⟨hfirst, hlater⟩

/-- An option that selects no branch ends with a failure of its own. -/
theorem Branch.runAt_accounts (hstore : ∀ key args world, (onStore key args world).Accounts)
    (args : List String) (missing : Error) :
    ∀ (branches : List Branch) (index : Nat) (world : World),
      (Branch.runAt onStore args missing branches index world).Accounts
  | [], _, _ => Journal.accounts_failed missing
  | ⟨_, step⟩ :: branches, index, world => by
    cases index with
    | zero => exact Step.run_accounts hstore step args world
    | succ index => exact Branch.runAt_accounts hstore args missing branches index world

end

end Accounting

/-- A hook is where failures stop as well, so storing a value accounts for all of them. -/
theorem Hooks.onStore_accounts (armed : Hooks) (user key : String) (args : List String)
    (world : World) : (armed.onStore user key args world).Accounts := by
  induction armed using disarm_induction generalizing key args world with
  | h armed ih =>
    rw [onStore_eq]
    dsimp only
    split
    · exact Journal.accounts_of_neither rfl rfl
    · rename_i step hfired
      obtain ⟨_, hget⟩ := fired?_eq_some hfired
      have hrun := Step.run_accounts (ih key step hget) step (Text.words (Text.unwords args))
        (world.set key (Text.unwords args))
      have hstarted : Journal.Accounts [.stored key (world.store.get? key) (Text.unwords args),
          .hookStarted key user (Text.words (Text.unwords args))] [] :=
        Journal.accounts_of_neither rfl rfl
      have hmarked := hrun.between _ [.hookEnded key] hstarted (Journal.accounts_of_neither rfl rfl)
      unfold Outcome.Accounts Outcome.error?
      rw [around_result]
      exact Outcome.Accounts.settle (.hook key) hmarked fun _ => rfl

end CommandBot
