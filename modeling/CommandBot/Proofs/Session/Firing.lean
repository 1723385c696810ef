import CommandBot.Proofs.Session.Attached
import Mathlib.Data.List.Nodup

namespace CommandBot

theorem Listener.hears_iff {spec : Listener} {user text : String} :
    spec.hears user text = true ↔
      (∀ expected, spec.user = some expected → expected = user) ∧
        spec.trigger.toList <:+: text.toList := by
  unfold hears Text.contains
  rw [Bool.and_eq_true, Text.occursIn_iff]
  cases spec.user <;> simp

/-- The listeners that a message leaves attached when some of them hear it: all but the temporary
ones among these. -/
def Listener.kept (user text : String) (listeners : List Listener) : List Listener :=
  listeners.filter fun spec => !(spec.temporary && spec.hears user text)

/-- A place tells whether the listener there hears the message. -/
theorem Listener.Apart.any_heard {listeners : List Listener} (happart : Apart listeners)
    {spec : Listener} (hspec : spec ∈ listeners) {user text : String} :
    (listeners.filter (·.hears user text)).any (·.place == spec.place) = spec.hears user text := by
  rw [Bool.eq_iff_iff, List.any_eq_true]
  constructor
  · rintro ⟨other, hother, hplace⟩
    obtain ⟨hmem, hhears⟩ := List.mem_filter.1 hother
    have hsame := List.inj_on_of_nodup_map happart hmem hspec (beq_iff_eq.1 hplace)
    rw [← hsame]
    exact hhears
  · intro hhears
    exact ⟨spec, List.mem_filter.2 ⟨hspec, hhears⟩, beq_self_eq_true _⟩

theorem Outcome.settle_attachments (report : Error → Report) (outcome : Outcome) :
    (outcome.settle report).journal.attachments = outcome.journal.attachments := by
  unfold settle
  cases outcome.result with
  | ok lines => rfl
  | error error =>
    rw [Journal.attachments_append]
    exact List.append_nil _

/-- A listener that runs on a message: the world that it finds, and what its run comes to. -/
structure Firing where
  listener : Listener
  found : World
  outcome : Outcome

/-- What happens when a listener runs, the telling of its failure included. -/
def Firing.journal (firing : Firing) : Journal :=
  (firing.outcome.settle (.listener firing.listener.trigger)).journal

theorem Firing.attachments_flatMap (fired : List Firing) :
    Journal.attachments (fired.flatMap Firing.journal) =
      fired.flatMap (·.outcome.journal.attachments) := by
  unfold Journal.attachments
  rw [List.filterMap_flatMap]
  refine List.flatMap_congr ?_
  intro firing _
  exact Outcome.settle_attachments _ firing.outcome

namespace Session

/-! ### Listeners that run one after the other -/

/-- The firings of listeners that run on the words of a message, each in the world that the one
before it leaves. -/
def fireEach (hooks : Hooks) (user text : String) : List Listener → World → List Firing
  | [], _ => []
  | spec :: listeners, world =>
    let outcome := spec.step.run (hooks.onStore user) (Text.words text) world
    ⟨spec, world, outcome⟩ :: fireEach hooks user text listeners outcome.world

section FireEach

variable {hooks : Hooks} {user text : String} {listeners : List Listener} {world : World}

/-- Each listener fires once, and they fire in order. -/
theorem fireEach_listeners :
    (fireEach hooks user text listeners world).map Firing.listener = listeners := by
  induction listeners generalizing world with
  | nil => rfl
  | cons spec listeners ih => rw [fireEach, List.map_cons, ih]

/-- A firing is a run of the listener's step in the world that it finds. -/
theorem fireEach_outcome :
    ∀ firing ∈ fireEach hooks user text listeners world, firing.outcome =
      firing.listener.step.run (hooks.onStore user) (Text.words text) firing.found := by
  induction listeners generalizing world with
  | nil =>
    intro firing hfiring
    cases hfiring
  | cons spec listeners ih =>
    intro firing hfiring
    rcases List.mem_cons.1 hfiring with rfl | hfiring
    · rfl
    · exact ih firing hfiring

/-- A failure stops with the listener that it comes from. -/
theorem fireAll_eq (hooks : Hooks) (user text : String) (listeners : List Listener)
    (world : World) :
    let fired := fireEach hooks user text listeners world
    let outcome := fireAll hooks user text listeners world
    outcome.lines = fired.flatMap (·.outcome.lines) ∧
      outcome.journal = fired.flatMap Firing.journal ∧
      fired.map Firing.found ++ [outcome.world] = world :: fired.map (·.outcome.world) := by
  induction listeners generalizing world with
  | nil => exact ⟨rfl, rfl, rfl⟩
  | cons spec listeners ih =>
    simp only [fireEach, fireAll, List.flatMap_cons, List.map_cons, List.cons_append,
      Outcome.settle_lines, Outcome.settle_world]
    obtain ⟨hlines, hjournal, hworlds⟩ :=
      ih (spec.step.run (hooks.onStore user) (Text.words text) world).world
    refine ⟨?_, ?_, ?_⟩
    · exact congrArg (_ ++ ·) hlines
    · exact congrArg (_ ++ ·) hjournal
    · exact congrArg (world :: ·) hworlds

end FireEach

/-! ### One message -/

/-- The listeners that are attached when a message is offered to them. -/
def offered (session : Session) (user text : String) : List Listener :=
  (session.dispatch user text).world.listeners

/-- Those of them that hear it. -/
def heard (session : Session) (user text : String) : List Listener :=
  (session.offered user text).filter (·.hears user (Text.without '\r' text))

/-- The world in which the first of them runs: the temporary ones are detached. -/
def detached (session : Session) (user text : String) : World :=
  { (session.dispatch user text).world with
    listeners := Listener.kept user (Text.without '\r' text) (session.offered user text) }

/-- The firings that a message sets off, if it is not dropped. -/
def firings (session : Session) (user text : String) : List Firing :=
  if session.drops user text then []
  else
    fireEach session.bot.hooks user (Text.without '\r' text) (session.heard user text)
      (session.detached user text)

/-- What a message that is not dropped does to the listeners. Its command attaches listeners behind
those that were there, and all of them are offered the message. Those that hear it run, each once
and in order, on the words of the message: the first one in the world that the command leaves,
without the temporary listeners that hear it, and each later one in the world that the one before it
leaves. The failure of one takes its lines and nothing else. What they attach comes behind the
listeners that were kept. -/
structure Round (session : Session) (user text : String) : Prop where
  offered : session.offered user text =
    session.world.listeners ++ (session.dispatch user text).journal.attachments
  heard : (session.firings user text).map Firing.listener =
    (session.offered user text).filter (·.hears user (Text.without '\r' text))
  reached : ∀ spec ∈ session.offered user text,
    spec ∈ (session.firings user text).map Firing.listener ↔
      (∀ expected, spec.user = some expected → expected = user) ∧
        spec.trigger.toList <:+: (Text.without '\r' text).toList
  outcome : ∀ firing ∈ session.firings user text, firing.outcome =
    firing.listener.step.run (session.bot.hooks.onStore user)
      (Text.words (Text.without '\r' text)) firing.found
  worlds : (session.firings user text).map Firing.found ++
      [(session.handle user text).session.world] =
    session.detached user text :: (session.firings user text).map (·.outcome.world)
  lines : (session.handle user text).lines =
    (session.dispatch user text).lines ++ (session.firings user text).flatMap (·.outcome.lines)
  journal : (session.handle user text).journal =
    (session.dispatch user text).journal ++ (session.firings user text).flatMap Firing.journal
  listeners : (session.handle user text).session.world.listeners =
    Listener.kept user (Text.without '\r' text) (session.offered user text) ++
      (session.firings user text).flatMap (·.outcome.journal.attachments)

/-- The listeners of a session are listeners of its bot, no two from the same place. -/
structure Orderly (session : Session) : Prop where
  apart : Listener.Apart session.world.listeners
  own : session.world.listeners ⊆ session.bot.listeners

variable {session : Session} {user text : String}

/-- A session starts without listeners, so it starts orderly. -/
theorem orderly_start (bot : Bot) (files : Files) : (start bot files).Orderly where
  apart := .nil
  own := List.nil_subset _

/-- The command of a message keeps the listeners apart. -/
theorem Orderly.offered_apart (h : session.Orderly) (user text : String) :
    Listener.Apart (session.offered user text) :=
  (session.dispatch_attaches user text).apart h.apart

theorem Orderly.offered_subset (h : session.Orderly) (user text : String) :
    session.offered user text ⊆ session.bot.listeners :=
  dispatch_listeners_subset user text h.own

/-- Detaching goes by place, but no two listeners share one. -/
theorem notify_eq_fireAll (hooks : Hooks) (user text : String) {world : World}
    (happart : Listener.Apart world.listeners) :
    notify hooks user text world =
      fireAll hooks user text (world.listeners.filter (·.hears user text))
        { world with listeners := Listener.kept user text world.listeners } := by
  have hkept : world.listeners.filter (fun spec => !(spec.temporary &&
      (world.listeners.filter (·.hears user text)).any (·.place == spec.place))) =
        Listener.kept user text world.listeners := by
    apply List.filter_congr
    intro spec hspec
    rw [happart.any_heard hspec]
  unfold notify
  dsimp only
  rw [hkept]

/-- What the listeners of an orderly session make of a message. -/
theorem Orderly.handle_eq (h : session.Orderly) (hdrops : session.drops user text = false) :
    let dispatched := session.dispatch user text
    let notified := fireAll session.bot.hooks user (Text.without '\r' text)
      (session.heard user text) (session.detached user text)
    session.handle user text =
      ⟨{ session with world := notified.world }, dispatched.lines ++ notified.lines,
        dispatched.journal ++ notified.journal⟩ := by
  have hnotify := notify_eq_fireAll session.bot.hooks user (Text.without '\r' text)
    (h.offered_apart user text)
  have hadmitted : ¬ session.drops user text = true := by simp [hdrops]
  rw [handle, if_neg hadmitted]
  dsimp only
  rw [hnotify]
  rfl

/-- A message that is not dropped fires the listeners that hear it, on the message without its
carriage returns. -/
theorem firings_eq (hdrops : session.drops user text = false) :
    session.firings user text = fireEach session.bot.hooks user (Text.without '\r' text)
      (session.heard user text) (session.detached user text) := by
  rw [firings, if_neg (by simp [hdrops])]

/-- What listeners attach while they hear a message comes behind those that were kept. -/
theorem Orderly.firings_attach (h : session.Orderly) (hdrops : session.drops user text = false) :
    Effect.Attaches session.bot.listeners (session.detached user text)
      ((session.firings user text).flatMap Firing.journal)
      (session.handle user text).session.world := by
  have hheard : session.heard user text ⊆ session.bot.listeners := by
    intro spec hspec
    exact h.offered_subset user text (List.mem_filter.1 hspec).1
  obtain ⟨_, hjournal, _⟩ := fireAll_eq session.bot.hooks user (Text.without '\r' text)
    (session.heard user text) (session.detached user text)
  rw [h.handle_eq hdrops, firings_eq hdrops, ← hjournal]
  exact fireAll_attaches user (Text.without '\r' text) hheard (session.detached user text)

/-- A message that is not dropped is one round: the listeners that its command leaves attached and
that hear it run, each once and in order. -/
theorem Orderly.round (h : session.Orderly) (hdrops : session.drops user text = false) :
    session.Round user text := by
  have hhandle := h.handle_eq hdrops
  have hfirings := firings_eq hdrops
  have hheard : (session.firings user text).map Firing.listener = session.heard user text := by
    rw [hfirings]
    exact fireEach_listeners
  obtain ⟨hlines, hjournal, hworlds⟩ := fireAll_eq session.bot.hooks user (Text.without '\r' text)
    (session.heard user text) (session.detached user text)
  rw [← hfirings] at hlines hjournal hworlds
  constructor
  case offered => exact (session.dispatch_attaches user text).listeners
  case heard => exact hheard
  case reached =>
    intro spec hspec
    rw [hheard, ← Listener.hears_iff]
    exact List.mem_filter.trans (and_iff_right hspec)
  case outcome =>
    rw [hfirings]
    exact fireEach_outcome
  case worlds =>
    rw [hhandle]
    exact hworlds
  case lines =>
    rw [hhandle]
    exact congrArg _ hlines
  case journal =>
    rw [hhandle]
    exact congrArg _ hjournal
  case listeners =>
    rw [(h.firings_attach hdrops).listeners, Firing.attachments_flatMap]
    rfl

end Session

end CommandBot
