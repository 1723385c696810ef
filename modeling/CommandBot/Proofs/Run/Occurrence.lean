import CommandBot.Proofs.Run.Failure
import CommandBot.Proofs.Run.Report

namespace CommandBot

/-- Where a failure arises is not part of the course of a run. -/
theorem Journal.failures_effects (journal : Journal) :
    journal.effects.failures = journal.failures := by
  have hevent : (fun event : Event => if !event.isCourse then event.failure? else none) =
      Event.failure? := by
    funext event
    cases event with
    | reported report => cases report <;> rfl
    | _ => rfl
  unfold failures effects
  rw [List.filterMap_filter, hevent]

/-- A call that occurs in a run, at whatever depth: the world that it finds, and what it comes to. A
plan stops where a value is stored, because it does not know what the hooks make of that; here each
such call is replaced by those that it sets off. -/
structure Occurrence where
  call : Call
  found : World
  outcome : Outcome

/-- Why the call fails, if it does. -/
def Occurrence.failure? (occurrence : Occurrence) : Option Error :=
  occurrence.call.failure? occurrence.found

/-- The calls that storing the arguments under a key sets off. -/
abbrev SetOff := String → List String → World → List Occurrence

namespace Call

/-- The calls that occur when one is made, given those that storing a value sets off: these, if the
call stores a value, and else the call itself. -/
def occurrences (onStore : OnStore) (setOff : SetOff) :
    Call → World → List Occurrence
  | .leaf ⟨_, _, .state key⟩ args, world => setOff key args world
  | call, world => [⟨call, world, call.run onStore world⟩]

/-- The calls that occur when several are made, one after the other. -/
def occurrencesAll (onStore : OnStore) (setOff : SetOff) :
    List Call → World → List Occurrence
  | [], _ => []
  | call :: calls, world =>
    call.occurrences onStore setOff world ++
      occurrencesAll onStore setOff calls (call.run onStore world).world

end Call

namespace Hooks

/-- The calls that occur when a value is stored: those that the hook of its key comes to, if it
starts, and those that storing values in it sets off in turn. -/
def setOff (armed : Hooks) (user key : String) (args : List String) (world : World) :
    List Occurrence :=
  let value := Text.unwords args
  match h : armed.fired? world.store key value with
  | none => []
  | some step =>
    have : (armed.erase key).size < armed.size := Table.size_erase_lt (fired?_eq_some h).2
    Call.occurrencesAll (Hooks.onStore (armed.erase key) user) (Hooks.setOff (armed.erase key) user)
      (step.plan (Text.words value)) (world.set key value)
termination_by armed.size

/-- The calls that occur when these are made, hooks included at every depth. -/
def occurrences (armed : Hooks) (user : String) (calls : List Call) (world : World) :
    List Occurrence :=
  Call.occurrencesAll (armed.onStore user) (armed.setOff user) calls world

/-- What storing a value sets off, in one equation: the calls of the hook that starts, with its key
disarmed, or nothing. -/
theorem setOff_eq (armed : Hooks) (user key : String) (args : List String) (world : World) :
    armed.setOff user key args world =
      let value := Text.unwords args
      match armed.fired? world.store key value with
      | none => []
      | some step =>
        occurrences (armed.erase key) user (step.plan (Text.words value))
          (world.set key value) := by
  rw [setOff]
  dsimp only
  split
  · rename_i hfired
    rw [hfired]
  · rename_i step hfired
    rw [hfired]
    rfl

end Hooks

/-- What is said and which failures arise is told by these calls: the lines are theirs, the failures
are theirs, and a call that fails says nothing. -/
structure Occurrence.Yield (occurrences : List Occurrence) (lines : List String)
    (journal : Journal) : Prop where
  lines : lines = occurrences.flatMap (·.outcome.lines)
  failures : journal.failures = occurrences.filterMap Occurrence.failure?
  silent : ∀ occurrence ∈ occurrences, occurrence.failure?.isSome → occurrence.outcome.lines = []

/-- A run comes to these calls. -/
def Outcome.ComesTo (outcome : Outcome) (occurrences : List Occurrence) : Prop :=
  Occurrence.Yield occurrences outcome.lines outcome.journal

theorem Occurrence.yield_nil {journal : Journal} (hfailures : journal.failures = []) :
    Yield [] [] journal where
  lines := rfl
  failures := hfailures
  silent := by
    rintro occurrence ⟨⟩

/-- Runs one after the other are told by their calls one after the other. -/
theorem Occurrence.Yield.append {occurrences others : List Occurrence} {lines more : List String}
    {journal later : Journal} (h : Yield occurrences lines journal)
    (hothers : Yield others more later) :
    Yield (occurrences ++ others) (lines ++ more) (journal ++ later) where
  lines := by rw [List.flatMap_append, ← h.lines, ← hothers.lines]
  failures := by
    rw [Journal.failures_append, List.filterMap_append, ← h.failures, ← hothers.failures]
  silent := List.forall_mem_append.2 ⟨h.silent, hothers.silent⟩

theorem Occurrence.Yield.flatMap {α : Type} {parts : List α} {occurrences : α → List Occurrence}
    {lines : α → List String} {journal : α → Journal}
    (h : ∀ part ∈ parts, Yield (occurrences part) (lines part) (journal part)) :
    Yield (parts.flatMap occurrences) (parts.flatMap lines) (parts.flatMap journal) := by
  induction parts with
  | nil => exact yield_nil rfl
  | cons part parts ih =>
    obtain ⟨hpart, hlater⟩ := List.forall_mem_cons.1 h
    exact hpart.append (ih hlater)

theorem Occurrence.Yield.of_failures_eq {occurrences : List Occurrence} {lines : List String}
    {journal other : Journal} (h : Yield occurrences lines journal)
    (hfailures : other.failures = journal.failures) : Yield occurrences lines other where
  lines := h.lines
  failures := hfailures.trans h.failures
  silent := h.silent

/-! ### Runs -/

/-- A call that stores no value has at most one failure in it, its own. -/
theorem Call.run_failures {onStore : OnStore} {call : Call} {world : World} (hleaf : call.IsOfLeaf)
    (hstate : ∀ name classAlias key args, call ≠ .leaf ⟨name, classAlias, .state key⟩ args) :
    (call.run onStore world).journal.failures = (call.failure? world).toList := by
  cases call with
  | unselected option word => rfl
  | leaf command args =>
    obtain ⟨name, classAlias, body⟩ := command
    cases body with
    | state key => exact absurd rfl (hstate name classAlias key args)
    | echo target =>
      simp only [run, Command.run, Body.run, runEcho, failure?]
      split
      · rfl
      · rfl
    | file path =>
      simp only [run, Command.run, Body.run, runFile, failure?]
      cases world.files.write path (Text.unwords args).toUTF8 with
      | ok files => rfl
      | error cause => rfl
    | info text => rfl
    | format template => rfl
    | listener spec =>
      simp only [run, Command.run, Body.run, runListener, failure?]
      split
      · rfl
      · rfl
    | shorthand | sequence | option => cases hleaf

/-- Entering and leaving a command neither says anything nor fails. -/
theorem Outcome.ComesTo.within {outcome : Outcome} {occurrences : List Occurrence} (name : String)
    (h : outcome.ComesTo occurrences) : (outcome.within name).ComesTo occurrences := by
  refine Occurrence.Yield.of_failures_eq h ?_
  rw [← Journal.failures_effects, Outcome.within_effects, Journal.failures_effects]

/-- A failure that is stopped has arisen nevertheless, so the calls stay the same. -/
theorem Outcome.ComesTo.settle {outcome : Outcome} {occurrences : List Occurrence}
    (report : Error → Report) (h : outcome.ComesTo occurrences) :
    (outcome.settle report).ComesTo occurrences := by
  unfold ComesTo
  rw [Outcome.settle_lines]
  refine Occurrence.Yield.of_failures_eq h ?_
  unfold Outcome.settle
  split
  · rfl
  · rw [Journal.failures_append]
    exact List.append_nil _

theorem Call.comesTo_self {onStore : OnStore} {call : Call} {world : World}
    (hfailures : (call.run onStore world).journal.failures = (call.failure? world).toList) :
    (call.run onStore world).ComesTo [⟨call, world, call.run onStore world⟩] where
  lines := by simp
  failures := by
    rw [hfailures, List.filterMap_cons]
    unfold Occurrence.failure?
    cases call.failure? world <;> rfl
  silent := by
    intro occurrence hmem hfails
    obtain rfl := List.mem_singleton.1 hmem
    obtain ⟨error, hfailure⟩ := Option.isSome_iff_exists.1 hfails
    obtain ⟨hresult, _⟩ := run_of_failure? onStore hfailure
    unfold Outcome.lines
    dsimp only
    rw [hresult]

/-- A call comes to what storing its value sets off, if it stores one, and else to itself. -/
theorem Call.run_comesTo {onStore : OnStore} {setOff : SetOff}
    (hstore : ∀ key args world, (onStore key args world).ComesTo (setOff key args world))
    {call : Call} (hleaf : call.IsOfLeaf) (world : World) :
    (call.run onStore world).ComesTo (call.occurrences onStore setOff world) := by
  unfold occurrences
  split
  · rename_i name classAlias key args
    exact (hstore key args world).within name
  · rename_i hstate
    exact comesTo_self (run_failures hleaf hstate)

/-- Calls come to what each of them comes to, in order. -/
theorem Call.runAll_comesTo {onStore : OnStore}
    {setOff : SetOff}
    (hstore : ∀ key args world, (onStore key args world).ComesTo (setOff key args world))
    {calls : List Call} (hleaves : ∀ call ∈ calls, call.IsOfLeaf) (world : World) :
    (runAll onStore calls world).ComesTo (occurrencesAll onStore setOff calls world) := by
  induction calls generalizing world with
  | nil => exact Occurrence.yield_nil rfl
  | cons call calls ih =>
    obtain ⟨hleaf, hothers⟩ := List.forall_mem_cons.1 hleaves
    have hfirst := run_comesTo hstore hleaf world
    exact hfirst.append (ih hothers (call.run onStore world).world)

/-- A run comes to what the calls of its plan come to, since composites add neither lines nor
failures. -/
theorem Outcome.Performs.comesTo {onStore : OnStore} {calls : List Call} {sequenced : Bool}
    {world : World} {outcome : Outcome} {occurrences : List Occurrence}
    (h : outcome.Performs onStore calls sequenced world)
    (hcalls : (Call.runAll onStore calls world).ComesTo occurrences) :
    outcome.ComesTo occurrences := by
  unfold ComesTo
  rw [h.lines]
  refine Occurrence.Yield.of_failures_eq hcalls ?_
  rw [← Journal.failures_effects, h.effects, Journal.failures_effects]

section Running

variable {onStore : OnStore} {setOff : SetOff}

/-- What a command says and which failures arise in it is told by the calls that occur in it, and by
nothing else. -/
theorem Command.run_comesTo
    (hstore : ∀ key args world, (onStore key args world).ComesTo (setOff key args world))
    (command : Command) (args : List String) (world : World) :
    (command.run onStore args world).ComesTo
      (Call.occurrencesAll onStore setOff (command.plan args) world) :=
  (command.run_performs args world).comesTo
    (Call.runAll_comesTo hstore (command.plan_ofLeaves args) world)

theorem Step.run_comesTo
    (hstore : ∀ key args world, (onStore key args world).ComesTo (setOff key args world))
    (step : Step) (args : List String) (world : World) :
    (step.run onStore args world).ComesTo
      (Call.occurrencesAll onStore setOff (step.plan args) world) :=
  (step.run_performs args world).comesTo
    (Call.runAll_comesTo hstore (step.plan_ofLeaves args) world)

end Running

/-- By induction on the armed hooks: what a hook comes to is told by the calls of its step. -/
theorem Hooks.onStore_comesTo (armed : Hooks) (user key : String) (args : List String)
    (world : World) :
    (armed.onStore user key args world).ComesTo (armed.setOff user key args world) := by
  induction armed using disarm_induction generalizing key args world with
  | h armed ih =>
    rw [onStore_eq, setOff_eq]
    dsimp only
    cases hfired : armed.fired? world.store key (Text.unwords args) with
    | none => exact Occurrence.yield_nil rfl
    | some step =>
      obtain ⟨_, hget⟩ := fired?_eq_some hfired
      have hrun := step.run_comesTo (ih key step hget) (Text.words (Text.unwords args))
        (world.set key (Text.unwords args))
      refine Outcome.ComesTo.settle (.hook key) (Occurrence.Yield.of_failures_eq hrun ?_)
      simp [Journal.failures, List.filterMap_cons, Event.failure?]

end CommandBot
