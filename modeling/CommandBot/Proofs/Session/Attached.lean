import CommandBot.Proofs.Session.Effect
import CommandBot.Proofs.Session.Script

namespace CommandBot

/-- The listener that an event attaches. -/
def Event.attached? : Event → Option Listener
  | .attached spec => some spec
  | _ => none

/-- The listeners that are attached in a journal, in order. -/
def Journal.attachments (journal : Journal) : List Listener := journal.filterMap Event.attached?

theorem Journal.attachments_append (journal later : Journal) :
    attachments (journal ++ later) = attachments journal ++ attachments later :=
  List.filterMap_append

/-- No two of these listeners are written at the same place. -/
def Listener.Apart (listeners : List Listener) : Prop := (listeners.map Listener.place).Nodup

/-- Listeners that are apart stay so when some are taken away, as when temporary ones are detached.
-/
theorem Listener.Apart.sublist {listeners others : List Listener} (h : Apart listeners)
    (hsublist : others.Sublist listeners) : Apart others :=
  List.Nodup.sublist (hsublist.map _) h

/-- A listener is attached only where none from its place is, so listeners stay apart. -/
theorem World.attach_apart {world : World} {spec : Listener}
    (hworld : Listener.Apart world.listeners) (hfresh : world.isAttached spec.place = false) :
    Listener.Apart (world.attach spec).listeners := by
  unfold Listener.Apart attach
  rw [List.map_append]
  refine List.nodup_append.2 ⟨hworld, by simp, ?_⟩
  intro place hplace other hother
  obtain ⟨attached, hattached, rfl⟩ := List.mem_map.1 hplace
  rw [List.mem_singleton.1 hother]
  simpa using List.any_eq_false.1 hfresh attached hattached

/-- A run adds what it attaches behind the listeners that are there. It attaches some of these
listeners only, and none at a place where there is one. -/
structure Effect.Attaches (specs : List Listener) (world : World) (journal : Journal)
    (after : World) : Prop where
  listeners : after.listeners = world.listeners ++ journal.attachments
  among : journal.attachments ⊆ specs
  apart : Listener.Apart world.listeners → Listener.Apart after.listeners

theorem Effect.attaches_of_listeners_eq {specs : List Listener} {world after : World}
    {journal : Journal} (hjournal : journal.attachments = [])
    (hlisteners : after.listeners = world.listeners) :
    Effect.Attaches specs world journal after where
  listeners := by rw [hjournal, List.append_nil, hlisteners]
  among := by
    rw [hjournal]
    exact List.nil_subset _
  apart := by
    rw [hlisteners]
    exact id

/-- Listeners of the bot are joined by listeners of the bot. -/
theorem Effect.Attaches.listeners_subset {specs : List Listener} {world after : World}
    {journal : Journal} (h : Effect.Attaches specs world journal after)
    (hworld : world.listeners ⊆ specs) : after.listeners ⊆ specs := by
  rw [h.listeners]
  exact List.append_subset.2 ⟨hworld, h.among⟩

/-- A run adds its attachments one by one, so at every moment of it the listeners are apart. -/
theorem Effect.Attaches.part {specs : List Listener} {world after : World} {journal part : Journal}
    (h : Effect.Attaches specs world journal after) (happart : Listener.Apart world.listeners)
    (hown : world.listeners ⊆ specs) (hpart : part <+: journal) :
    Listener.Apart (world.listeners ++ part.attachments) ∧
      world.listeners ++ part.attachments ⊆ specs := by
  have hattached : part.attachments <+: journal.attachments := hpart.filterMap Event.attached?
  have hprefix : world.listeners ++ part.attachments <+: after.listeners := by
    rw [h.listeners]
    exact (List.prefix_append_right_inj _).2 hattached
  refine ⟨(h.apart happart).sublist hprefix.sublist, ?_⟩
  exact List.Subset.trans hprefix.subset (h.listeners_subset hown)

/-- What runs attach one after the other, they attach together. -/
theorem Effect.attaches_composes (specs : List Listener) :
    Effect.Composes fun _ => Effect.Attaches specs := by
  apply composes_of_marks
  · intro world
    exact attaches_of_listeners_eq rfl rfl
  · intro world event hnote
    refine attaches_of_listeners_eq ?_ rfl
    cases event with
    | failed error => rfl
    | reported report => rfl
    | _ => cases hnote
  · intro world command
    exact attaches_of_listeners_eq rfl rfl
  · intro world
    exact attaches_of_listeners_eq rfl rfl
  · intro before between after journal later hfirst hlater
    constructor
    · rw [hlater.listeners, hfirst.listeners, Journal.attachments_append, List.append_assoc]
    · rw [Journal.attachments_append]
      exact List.append_subset.2 ⟨hfirst.among, hlater.among⟩
    · intro hbefore
      exact hlater.apart (hfirst.apart hbefore)

/-- Attaching one listener, at a place that is free, is the single case that is not nothing. -/
theorem Effect.attaches_attach {world : World} {spec : Listener} {specs : List Listener}
    (hspec : spec ∈ specs) (hfresh : world.isAttached spec.place = false) :
    Effect.Attaches specs world [.attached spec] (world.attach spec) where
  listeners := rfl
  among := by
    intro other hother
    obtain rfl := List.mem_singleton.1 hother
    exact hspec
  apart hworld := World.attach_apart hworld hfresh

/-- Whatever a bot may be asked to run attaches listeners of the bot only. -/
theorem Bot.has_attaches (bot : Bot) (user : String) :
    bot.Has (fun _ => Effect.Attaches bot.listeners) 0 user := by
  have hallows : Effect.Allows (Effect.Attaches bot.listeners) user
      fun leaf => ∀ spec, leaf = .listener spec → spec ∈ bot.listeners := by
    constructor
    case attached =>
      intro spec hspec world hfresh
      exact Effect.attaches_attach (hspec spec rfl) hfresh
    all_goals
      intros
      exact Effect.attaches_of_listeners_eq rfl rfl
  refine Bot.Confined.has ?_ (Effect.attaches_composes bot.listeners) hallows
  constructor
  · rintro name command hget _ hleaf spec rfl
    exact Bot.command_listeners_subset hget (Command.mem_listeners_of_leaf command hleaf)
  · rintro key step hget _ hleaf spec rfl
    exact Bot.hook_listeners_subset hget (Step.mem_listeners_of_leaf step hleaf)
  · rintro spec hspec _ hleaf other rfl
    exact bot.listeners_closed spec hspec (Step.mem_listeners_of_leaf spec.step hleaf)

namespace Session

/-- The command of a message attaches listeners of the bot only. -/
theorem dispatch_attaches (session : Session) (user text : String) :
    Effect.Attaches session.bot.listeners session.world (session.dispatch user text).journal
      (session.dispatch user text).world :=
  dispatch_has (Effect.attaches_composes _) (session.bot.has_attaches user) text

theorem dispatch_listeners_subset {session : Session} (user text : String)
    (hlisteners : session.world.listeners ⊆ session.bot.listeners) :
    (session.dispatch user text).world.listeners ⊆ session.bot.listeners :=
  (session.dispatch_attaches user text).listeners_subset hlisteners

theorem fireAll_attaches {bot : Bot} {heard : List Listener} (user text : String)
    (hheard : heard ⊆ bot.listeners) (world : World) :
    Effect.Attaches bot.listeners world (fireAll bot.hooks user text heard world).journal
      (fireAll bot.hooks user text heard world).world :=
  fireAll_has (Effect.attaches_composes _) (bot.has_attaches user) text hheard world

/-- Whatever a message does, the listeners after it are listeners of the bot. -/
theorem handle_listeners_subset {session : Session} (user text : String)
    (hlisteners : session.world.listeners ⊆ session.bot.listeners) :
    (session.handle user text).session.world.listeners ⊆ session.bot.listeners := by
  have hdispatched := dispatch_listeners_subset user text hlisteners
  unfold handle
  split
  · exact hlisteners
  · have hsome (choose : Listener → Bool) :
        (session.dispatch user text).world.listeners.filter choose ⊆ session.bot.listeners :=
      List.Subset.trans List.filter_sublist.subset hdispatched
    exact (fireAll_attaches user (Text.without '\r' text) (hsome _) _).listeners_subset (hsome _)

/-- A session that has listeners of its bot only keeps to them, and what each message does to it
adds up. -/
theorem play_has {effect : Effect} {depth : Nat} (session : Session) (script : List Input)
    (hcomposes : effect.Composes) (hdetaches : effect.Detaches)
    (hbot : ∀ user, session.bot.Has effect depth user)
    (happroved : ∀ user world, effect 0 world [.approved user] world)
    (hlisteners : session.world.listeners ⊆ session.bot.listeners) :
    (session.play script).session.world.listeners ⊆ session.bot.listeners ∧
      effect depth session.world (session.play script).journal
        (session.play script).session.world := by
  induction script generalizing session with
  | nil => exact ⟨hlisteners, Outcome.done_has hcomposes []⟩
  | cons input script ih =>
    cases input with
    | approval user =>
      obtain ⟨hafter, hlater⟩ := ih (session.approve user) hbot hlisteners
      have hmark := hcomposes.mono (Nat.zero_le depth) (happroved user session.world)
      exact ⟨hafter, hcomposes.append depth hmark hlater⟩
    | message user text =>
      have hdispatched := dispatch_listeners_subset user text hlisteners
      have hhandled := handle_has hcomposes hdetaches (hbot user) text hdispatched
      have hkept := handle_listeners_subset user text hlisteners
      have hrest := ih (session.handle user text).session
      rw [session.handle_bot user text] at hrest
      obtain ⟨hafter, hlater⟩ := hrest hbot hkept
      exact ⟨hafter, hcomposes.append depth hhandled hlater⟩

end Session

end CommandBot
