import CommandBot.Proofs.Run.Occurrence
import CommandBot.Proofs.Session.Listening

namespace CommandBot

/-- A journal tells of these failures: each of them makes one warning, which closes with its
wording, and nothing else warns. -/
structure Journal.Tells (journal : Journal) (failures : List Error) : Prop where
  warnings : journal.warnings = journal.reports.map fun report => ⟨.warn, report.message⟩
  worded : ∀ report ∈ journal.reports, ∃ lead, report.message = lead ++ report.error.message
  once : (journal.reports.map Report.error).Perm failures

/-- A journal tells of the failures that it reports, in that order. -/
theorem Journal.tells (journal : Journal) :
    journal.Tells (journal.reports.map Report.error) where
  warnings := journal.warnings_eq
  worded := by
    intro report _
    exact report.exists_message_eq
  once := .refl _

theorem Journal.Tells.length_warnings {journal : Journal} {failures : List Error}
    (h : journal.Tells failures) : journal.warnings.length = failures.length := by
  rw [h.warnings, List.length_map, ← h.once.length_eq, List.length_map]

/-- A journal in which nothing is still to be told tells of all its failures. -/
theorem Journal.Accounts.tells {journal : Journal} (h : journal.Accounts []) :
    journal.Tells journal.failures where
  __ := journal.tells
  once := by
    unfold Accounts at h
    rw [List.append_nil] at h
    exact h.symm

/-- The calls that occur when a listener runs on the words of a message. -/
def Firing.occurrences (hooks : Hooks) (user text : String) (firing : Firing) : List Occurrence :=
  hooks.occurrences user (firing.listener.step.plan (Text.words text)) firing.found

namespace Session

/-- The calls that occur when a command runs by its name. -/
def called (session : Session) (user name : String) (args : List String) : List Occurrence :=
  match session.bot.commands.get? name with
  | some command => session.bot.hooks.occurrences user (command.plan args) session.world
  | none => []

/-- The calls that occur while a message is handled: those of the command that it asks for, and then
those of each listener that hears it. -/
def occurrences (session : Session) (user text : String) : List Occurrence :=
  if session.drops user text then []
  else
    let commanded :=
      match session.read? text with
      | some ⟨name, args⟩ => session.called user name args
      | none => []
    commanded ++
      (session.firings user text).flatMap
        (Firing.occurrences session.bot.hooks user (Text.without '\r' text))

variable {session : Session} {user text : String}

/-- A command that is called by its name tells of all failures but the one that it ends with. -/
theorem invoke_accounts (session : Session) (user name : String) (args : List String) :
    (session.invoke user name args).Accounts := by
  unfold invoke
  split
  · rename_i command _
    exact command.run_accounts (session.bot.hooks.onStore_accounts user) args session.world
  · exact Journal.accounts_of_neither rfl rfl

theorem invoke_comesTo (session : Session) (user name : String) (args : List String) :
    (session.invoke user name args).ComesTo (session.called user name args) := by
  unfold invoke called
  cases session.bot.commands.get? name with
  | none => exact Occurrence.yield_nil rfl
  | some command =>
    exact command.run_comesTo (session.bot.hooks.onStore_comesTo user) args session.world

/-- Nothing is left to be told once a message is handled. -/
theorem Orderly.handle_accounts (h : session.Orderly) (user text : String) :
    (session.handle user text).journal.Accounts [] := by
  cases hdrops : session.drops user text with
  | true =>
    rw [handle_of_drops hdrops]
    exact Journal.accounts_of_neither rfl rfl
  | false =>
    have hround := h.round hdrops
    have hcommand : (session.dispatch user text).journal.Accounts [] := by
      unfold dispatch
      split
      · rename_i name args _
        exact (session.invoke_accounts user name args).settle (.command name user) fun _ => rfl
      · exact Journal.accounts_of_neither rfl rfl
    have hlisteners : Journal.Accounts ((session.firings user text).flatMap Firing.journal) [] := by
      apply Journal.accounts_flatMap
      intro firing hfiring
      have hrun := firing.listener.step.run_accounts (session.bot.hooks.onStore_accounts user)
        (Text.words (Text.without '\r' text)) firing.found
      rw [← hround.outcome firing hfiring] at hrun
      exact hrun.settle (.listener firing.listener.trigger) fun _ => rfl
    rw [hround.journal]
    exact hcommand.append hlisteners

/-- What is said to a message and which failures arise from it is told by the calls that occur. -/
theorem Orderly.handle_yields (h : session.Orderly) (user text : String) :
    Occurrence.Yield (session.occurrences user text) (session.handle user text).lines
      (session.handle user text).journal := by
  unfold occurrences
  cases hdrops : session.drops user text with
  | true =>
    rw [handle_of_drops hdrops, if_pos rfl]
    exact Occurrence.yield_nil rfl
  | false =>
    have hround := h.round hdrops
    rw [if_neg Bool.false_ne_true, hround.lines, hround.journal]
    refine Occurrence.Yield.append ?_ (Occurrence.Yield.flatMap ?_)
    · unfold dispatch
      cases session.read? text with
      | none => exact Occurrence.yield_nil rfl
      | some invocation =>
        obtain ⟨name, args⟩ := invocation
        exact (session.invoke_comesTo user name args).settle (.command name user)
    · intro firing hfiring
      have hrun := firing.listener.step.run_comesTo (session.bot.hooks.onStore_comesTo user)
        (Text.words (Text.without '\r' text)) firing.found
      rw [← hround.outcome firing hfiring] at hrun
      have hsettled := hrun.settle (.listener firing.listener.trigger)
      unfold Outcome.ComesTo at hsettled
      rw [Outcome.settle_lines] at hsettled
      exact hsettled

/-- No failure is lost, told twice or sent to chat. Take any bot after any script. The calls that
occur while a message is handled, in its command, in its listeners and in hooks at every depth, tell
what is said: the lines of those that succeed. Those that fail say nothing, and each of them makes
one warning. A command that is called by its name alone tells of all failures but the one that it
ends with. And wherever a sequence runs, it tells of its failed steps after all that happens in its
steps, in their order and counted from 1. -/
theorem failures_told_once (bot : Bot) (files : Files) (script : List Input) (user : String) :
    let session := ((start bot files).play script).session
    (∀ text,
      let reply := session.handle user text
      let occurrences := session.occurrences user text
      Occurrence.Yield occurrences reply.lines reply.journal ∧
        reply.journal.Tells (occurrences.filterMap Occurrence.failure?) ∧
        reply.journal.warnings.length = occurrences.countP (·.failure?.isSome)) ∧
    (∀ name args,
      let outcome := session.invoke user name args
      let occurrences := session.called user name args
      outcome.ComesTo occurrences ∧
        (∃ told, outcome.journal.Tells told ∧
          (told ++ outcome.error?.toList).Perm (occurrences.filterMap Occurrence.failure?)) ∧
        outcome.journal.warnings.length + outcome.error?.toList.length =
          occurrences.countP (·.failure?.isSome)) ∧
    ∀ (armed : Hooks) (name classAlias : String) (steps : List Step) (args : List String)
        (world : World),
      let outcomes := Step.outcomes (armed.onStore user) args steps world
      let outcome :=
        Command.run (armed.onStore user) ⟨name, classAlias, .sequence steps⟩ args world
      outcome.result = .ok (outcomes.flatMap Outcome.lines) ∧
        outcome.journal = .entered name :: (outcomes.flatMap Outcome.journal ++
          (Outcome.stepReports name outcomes).map .reported) ++ [.left] := by
  intro session
  obtain ⟨horderly, _⟩ := (orderly_start bot files).play script
  have hcount (occurrences : List Occurrence) :
      (occurrences.filterMap Occurrence.failure?).length =
        occurrences.countP (·.failure?.isSome) :=
    List.length_filterMap_eq_countP
  refine ⟨?_, ?_, ?_⟩
  · intro text reply occurrences
    have hyields := horderly.handle_yields user text
    have htells := (horderly.handle_accounts user text).tells
    rw [hyields.failures] at htells
    refine ⟨hyields, htells, ?_⟩
    rw [htells.length_warnings]
    exact hcount _
  · intro name args outcome occurrences
    have hcomes := session.invoke_comesTo user name args
    have haccounts := session.invoke_accounts user name args
    unfold Outcome.Accounts Journal.Accounts at haccounts
    rw [hcomes.failures] at haccounts
    have htells := (session.invoke user name args).journal.tells
    refine ⟨hcomes, ⟨_, htells, haccounts.symm⟩, ?_⟩
    rw [htells.length_warnings, ← List.length_append, ← haccounts.length_eq]
    exact hcount _
  · intro armed name classAlias steps args world outcomes outcome
    obtain ⟨hresult, hjournal⟩ := Body.run_sequence (armed.onStore user) args name steps world
    refine ⟨hresult, ?_⟩
    dsimp only [outcome, outcomes, Command.run, Outcome.within]
    rw [hjournal]

-- A hook runs a sequence that fails twice. The sequence tells of its steps, by their positions, and
-- the command that has set the hook off succeeds.
example :
    let say : Step := .inline ⟨"", "EchoCommand", .echo ""⟩
    let pick : Step := .inline ⟨"", "OptionCommand", .option []⟩
    let cheer : Step := .inline ⟨"", "InfoCommand", .info "gg"⟩
    let bot : Bot :=
      { commands := .ofList [("score", ⟨"score", "StateCommand", .state "score"⟩)]
        restricted := []
        unrestricted := []
        approved := []
        store := .empty
        hooks := .ofList [("score", .inline ⟨"", "SequenceCommand", .sequence [say, cheer, pick]⟩)]
        mark := "!" }
    let reply := (start bot .empty).handle "viewer" "!score 7"
    reply.lines = ["gg"] ∧ reply.journal.warnings.map LogRecord.text =
      ["Sequence '' step 1 failed: command '' has no echo target",
        "Sequence '' step 3 failed: no option matching '7' in command ''"] := by
  decide +kernel

end Session

end CommandBot
