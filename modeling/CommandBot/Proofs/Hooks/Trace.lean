import CommandBot.Text.Words
import CommandBot.World
import CommandBot.Journal

namespace CommandBot

/-- A store, or the start or end of a hook. -/
def Event.isHook : Event → Bool
  | .stored .. | .hookStarted .. | .hookEnded _ => true
  | _ => false

/-- The hooks that are open after an event, innermost first, from those open before it. Only the
innermost hook can end. -/
def Event.reopen? (opened : List String) : Event → Option (List String)
  | .hookStarted key _ _ => some (key :: opened)
  | .hookEnded key => if opened.head? = some key then some opened.tail else none
  | _ => some opened

/-- The store after an event, if the event takes for the previous value what stands there. -/
def Event.restore? (store : Store) : Event → Option Store
  | .stored key previous value =>
    if store.get? key = previous then some (store.insert key value) else none
  | _ => some store

namespace Journal

/-- What a journal tells of hooks and of what sets them off. -/
def hookTrace (journal : Journal) : Journal := journal.filter Event.isHook

/-- A trace is read off a journal event by event, so it splits where the journal does. -/
theorem hookTrace_append (journal later : Journal) :
    hookTrace (journal ++ later) = hookTrace journal ++ hookTrace later :=
  List.filter_append ..

/-- The hooks that are open after a trace, innermost first, unless an end in it has no start. -/
def openHooks? (trace : Journal) : Option (List String) := trace.foldlM Event.reopen? []

/-- The store after a trace, unless a store in it takes a wrong value for the previous one. -/
def replay? (store : Store) (trace : Journal) : Option Store := trace.foldlM Event.restore? store

end Journal

/-- Storing a value calls for the hook of its key: the value is a new one, the key has a hook, and
that hook is not open. No value at all differs from every value. -/
def Hooks.Called (hooks : Hooks) (opened : List String) (key : String) (previous : Option String)
    (value : String) : Prop :=
  previous ≠ some value ∧ hooks.contains key = true ∧ key ∉ opened

/-- What makes the trace of a run with these hooks, for this user, a disciplined one: the hooks
nest, none starts inside itself, and each starts at the store that calls for it and nowhere else. -/
structure Journal.Disciplined (hooks : Hooks) (user : String) (trace : Journal) : Prop where
  /-- Starts and ends are well nested, and every hook that started has ended. -/
  closed : trace.openHooks? = some []
  /-- No hook starts while it is open. -/
  fresh : ∀ before key starter words after,
    trace = before ++ .hookStarted key starter words :: after →
      ∃ opened, openHooks? before = some opened ∧ key ∉ opened
  /-- A store is followed at once by a start of its key's hook just if it calls for that hook. -/
  fires : ∀ before key previous value after,
    trace = before ++ .stored key previous value :: after →
      ∃ opened, openHooks? before = some opened ∧
        ((∃ starter words rest, after = .hookStarted key starter words :: rest) ↔
          hooks.Called opened key previous value)
  /-- A hook starts at a store to its key, for the user of the run and on the words of the value. -/
  started : ∀ before key starter words after,
    trace = before ++ .hookStarted key starter words :: after →
      starter = user ∧ ∃ earlier previous value,
        before = earlier ++ [.stored key previous value] ∧ words = Text.words value

/-- A moment between two events of a trace: the open hooks, innermost first, a key and a value if a
hook has to start for them at once, and the store. Disciplined traces are the runs of the machine
whose states these are. -/
structure Moment where
  opened : List String
  due : Option (String × String)
  store : Store

namespace Moment

/-- What an event of a disciplined trace makes of a moment. -/
inductive Next (hooks : Hooks) (user : String) : Moment → Event → Moment → Prop
  | kept {opened : List String} {store : Store} {key value : String} :
    ¬ hooks.Called opened key (store.get? key) value →
      Next hooks user ⟨opened, none, store⟩ (.stored key (store.get? key) value)
        ⟨opened, none, store.insert key value⟩
  | called {opened : List String} {store : Store} {key value : String} :
    hooks.Called opened key (store.get? key) value →
      Next hooks user ⟨opened, none, store⟩ (.stored key (store.get? key) value)
        ⟨opened, some (key, value), store.insert key value⟩
  | started {opened : List String} {store : Store} {key value : String} :
    key ∉ opened →
      Next hooks user ⟨opened, some (key, value), store⟩
        (.hookStarted key user (Text.words value)) ⟨key :: opened, none, store⟩
  | ended {opened : List String} {store : Store} {key : String} :
    Next hooks user ⟨key :: opened, none, store⟩ (.hookEnded key) ⟨opened, none, store⟩

/-- What a disciplined trace makes of a moment, event by event. -/
inductive Runs (hooks : Hooks) (user : String) : Moment → Journal → Moment → Prop
  | done (moment : Moment) : Runs hooks user moment [] moment
  | step {before between after : Moment} {event : Event} {trace : Journal} :
    Next hooks user before event between → Runs hooks user between trace after →
      Runs hooks user before (event :: trace) after

variable {hooks : Hooks} {user : String} {before between after : Moment} {trace later : Journal}

/-- The machine opens and closes hooks as the events say. -/
theorem Next.reopen? {event : Event} (h : Next hooks user before event after) :
    event.reopen? before.opened = some after.opened := by
  cases h with
  | kept => rfl
  | called => rfl
  | started => rfl
  | ended => simp [Event.reopen?]

/-- The machine keeps the store that the events tell of. -/
theorem Next.restore? {event : Event} (h : Next hooks user before event after) :
    event.restore? before.store = some after.store := by
  cases h with
  | kept => simp [Event.restore?]
  | called => simp [Event.restore?]
  | started => rfl
  | ended => rfl

namespace Runs

theorem single {event : Event} (h : Next hooks user before event after) :
    Runs hooks user before [event] after :=
  .step h (.done after)

theorem append (h : Runs hooks user before trace between)
    (hlater : Runs hooks user between later after) :
    Runs hooks user before (trace ++ later) after := by
  induction h with
  | done => exact hlater
  | step hnext _ ih => exact .step hnext (ih hlater)

/-- A store that calls for a hook, with what the hook comes to. -/
theorem hook {opened : List String} {store final : Store} {key value : String}
    (hcalled : hooks.Called opened key (store.get? key) value)
    (h : Runs hooks user ⟨key :: opened, none, store.insert key value⟩ trace
      ⟨key :: opened, none, final⟩) :
    Runs hooks user ⟨opened, none, store⟩
      (.stored key (store.get? key) value :: .hookStarted key user (Text.words value) ::
        trace ++ [.hookEnded key])
      ⟨opened, none, final⟩ := by
  have hfresh := hcalled.2.2
  have hended := h.append (single .ended)
  exact .step (.called hcalled) (.step (.started hfresh) hended)

/-- A run passes through a moment wherever its trace is cut. This is what turns a fact about the
machine into one about every prefix of a trace. -/
theorem split (h : Runs hooks user before (trace ++ later) after) :
    ∃ between, Runs hooks user before trace between ∧ Runs hooks user between later after := by
  induction trace generalizing before with
  | nil => exact ⟨before, .done before, h⟩
  | cons event trace ih =>
    cases h with
    | step hnext hrest =>
      obtain ⟨between, hfirst, hlater⟩ := ih hrest
      exact ⟨between, .step hnext hfirst, hlater⟩

theorem openHooks (h : Runs hooks user before trace after) :
    trace.foldlM Event.reopen? before.opened = some after.opened := by
  induction h with
  | done moment => rfl
  | step hnext _ ih =>
    rw [List.foldlM_cons, hnext.reopen?]
    exact ih

/-- A run of the machine tells the truth about the store. -/
theorem replay (h : Runs hooks user before trace after) :
    trace.replay? before.store = some after.store := by
  unfold Journal.replay?
  induction h with
  | done moment => rfl
  | step hnext _ ih =>
    rw [List.foldlM_cons, hnext.restore?]
    exact ih

/-- Where a hook is due, the last event was the store that called for it. -/
theorem last_of_due {key value : String} (h : Runs hooks user before trace after)
    (hbefore : before.due = none) (hafter : after.due = some (key, value)) :
    ∃ earlier previous, trace = earlier ++ [.stored key previous value] := by
  rcases List.eq_nil_or_concat trace with rfl | ⟨earlier, event, rfl⟩
  · cases h
    rw [hbefore] at hafter
    cases hafter
  · rw [List.concat_eq_append] at h ⊢
    obtain ⟨between, _, hlast⟩ := h.split
    cases hlast with
    | step hnext hdone =>
      cases hdone
      cases hnext with
      | called =>
        cases hafter
        exact ⟨earlier, _, rfl⟩
      | kept => cases hafter
      | started => cases hafter
      | ended => cases hafter

/-- Where a hook is due, the next event is its start. -/
theorem first_of_due {key value : String} (h : Runs hooks user before trace after)
    (hbefore : before.due = some (key, value)) (hafter : after.due = none) :
    ∃ rest, trace = .hookStarted key user (Text.words value) :: rest := by
  cases h with
  | done =>
    rw [hbefore] at hafter
    cases hafter
  | step hnext _ =>
    cases hnext with
    | started =>
      cases hbefore
      exact ⟨_, rfl⟩
    | kept => cases hbefore
    | called => cases hbefore
    | ended => cases hbefore

theorem not_started {key starter : String} {words : List String} (hbefore : before.due = none) :
    ¬ Runs hooks user before (.hookStarted key starter words :: trace) after := by
  intro h
  cases h with
  | step hnext _ =>
    cases hnext
    cases hbefore

/-- What the machine lets through from one quiet moment without open hooks to another is
disciplined. -/
theorem disciplined {store final : Store}
    (h : Runs hooks user ⟨[], none, store⟩ trace ⟨[], none, final⟩) :
    trace.Disciplined hooks user where
  closed := h.openHooks
  fresh := by
    rintro before key starter words after rfl
    obtain ⟨moment, hbefore, hrest⟩ := h.split
    refine ⟨moment.opened, hbefore.openHooks, ?_⟩
    cases hrest with
    | step hnext _ =>
      cases hnext with
      | started hfresh => exact hfresh
  fires := by
    rintro before key previous value after rfl
    obtain ⟨moment, hbefore, hrest⟩ := h.split
    refine ⟨moment.opened, hbefore.openHooks, ?_⟩
    cases hrest with
    | step hnext hafter =>
      cases hnext with
      | kept hnot =>
        refine ⟨?_, fun hcalled => absurd hcalled hnot⟩
        rintro ⟨starter, words, rest, rfl⟩
        exact absurd hafter (not_started rfl)
      | called hcalled =>
        obtain ⟨rest, hstart⟩ := hafter.first_of_due rfl rfl
        exact ⟨fun _ => hcalled, fun _ => ⟨user, Text.words value, rest, hstart⟩⟩
  started := by
    rintro before key starter words after rfl
    obtain ⟨moment, hbefore, hrest⟩ := h.split
    cases hrest with
    | step hnext _ =>
      cases hnext with
      | @started opened store key value _ =>
        obtain ⟨earlier, previous, hlast⟩ := hbefore.last_of_due rfl rfl
        exact ⟨rfl, earlier, previous, value, hlast, rfl⟩

end Runs

end Moment

end CommandBot
