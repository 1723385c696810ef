import CommandBot.Proofs.Document.Listeners
import CommandBot.Proofs.Session.Firing

namespace CommandBot

/-- The listeners that stay attached once they are. -/
def Listener.lasting (listeners : List Listener) : List Listener :=
  listeners.filter (!·.temporary)

theorem Listener.lasting_append (listeners others : List Listener) :
    lasting (listeners ++ others) = lasting listeners ++ lasting others :=
  List.filter_append ..

theorem Listener.lasting_kept (user text : String) (listeners : List Listener) :
    lasting (kept user text listeners) = lasting listeners := by
  unfold lasting kept
  rw [List.filter_filter]
  apply List.filter_congr
  intro spec _
  cases spec.temporary <;> rfl

/-- How many of these listeners are written at a place. -/
def Listener.countAt (place : Place) (listeners : List Listener) : Nat :=
  listeners.countP (·.place == place)

theorem Listener.countAt_append (place : Place) (listeners others : List Listener) :
    countAt place (listeners ++ others) = countAt place listeners + countAt place others :=
  List.countP_append

/-- The listeners at a place that hear a message and those that are kept are all of them, if they
are temporary. -/
theorem Listener.countAt_kept {place : Place} {listeners : List Listener} (user text : String)
    (htemporary : ∀ spec ∈ listeners, spec.place = place → spec.temporary = true) :
    countAt place listeners =
      countAt place (listeners.filter (·.hears user text)) +
        countAt place (kept user text listeners) := by
  have hkept : countAt place (kept user text listeners) =
      countAt place (listeners.filter (!·.hears user text)) := by
    unfold countAt kept
    rw [List.countP_filter, List.countP_filter]
    apply List.countP_congr
    intro spec hspec
    by_cases hplace : spec.place = place
    · simp [htemporary spec hspec hplace]
    · simp [hplace]
  rw [hkept]
  exact List.countP_eq_countP_filter_add listeners _ _

namespace Session

variable {session : Session} {user text : String}

/-- The lists of listeners that are attached at the moments of handling a message: before it, while
its command runs, and while the listeners that hear it run. What the journal tells up to a moment is
what has been attached until then. -/
inductive AttachedDuring (session : Session) (user text : String) : List Listener → Prop where
  | before : session.AttachedDuring user text session.world.listeners
  | command {part : Journal} (hdrops : session.drops user text = false)
      (hpart : part <+: (session.dispatch user text).journal) :
      session.AttachedDuring user text (session.world.listeners ++ part.attachments)
  | firing {part : Journal} (hdrops : session.drops user text = false)
      (hpart : part <+: (session.firings user text).flatMap Firing.journal) :
      session.AttachedDuring user text
        ((session.detached user text).listeners ++ part.attachments)

/-- Detaching keeps the others apart. -/
theorem Orderly.detached_apart (h : session.Orderly) (user text : String) :
    Listener.Apart (session.detached user text).listeners :=
  (h.offered_apart user text).sublist List.filter_sublist

theorem Orderly.detached_subset (h : session.Orderly) (user text : String) :
    (session.detached user text).listeners ⊆ session.bot.listeners :=
  List.Subset.trans List.filter_sublist.subset (h.offered_subset user text)

/-- At every moment of handling a message the attached listeners are listeners of the bot, and
apart. -/
theorem Orderly.attachedDuring (h : session.Orderly) {attached : List Listener}
    (hduring : session.AttachedDuring user text attached) :
    Listener.Apart attached ∧ attached ⊆ session.bot.listeners := by
  cases hduring with
  | before => exact ⟨h.apart, h.own⟩
  | command hdrops hpart =>
    exact (session.dispatch_attaches user text).part h.apart h.own hpart
  | firing hdrops hpart =>
    exact (h.firings_attach hdrops).part (h.detached_apart user text)
      (h.detached_subset user text) hpart

/-- A message leaves the session orderly. -/
theorem Orderly.handle (h : session.Orderly) (user text : String) :
    (session.handle user text).session.Orderly := by
  cases hdrops : session.drops user text with
  | true =>
    rw [handle_of_drops hdrops]
    exact h
  | false =>
    have hattaches := h.firings_attach hdrops
    constructor
    · exact hattaches.apart (h.detached_apart user text)
    · rw [session.handle_bot user text]
      exact hattaches.listeners_subset (h.detached_subset user text)

/-- A message takes no lasting listener away and puts none in front of another. -/
theorem Orderly.lasting_prefix_handle (h : session.Orderly) (user text : String) :
    Listener.lasting session.world.listeners <+:
      Listener.lasting (session.handle user text).session.world.listeners := by
  cases hdrops : session.drops user text with
  | true => exact (handle_of_drops hdrops).symm ▸ List.prefix_rfl
  | false =>
    have hround := h.round hdrops
    rw [hround.listeners, Listener.lasting_append, Listener.lasting_kept, hround.offered,
      Listener.lasting_append, List.append_assoc]
    exact List.prefix_append _ _

theorem firings_eq_of_drops (hdrops : session.drops user text = true) :
    session.firings user text = [] := by
  rw [firings, if_pos hdrops]

/-- What is attached when a message comes or is attached while it is handled either fires or is
attached afterwards. A temporary listener that attaches itself again counts anew. -/
theorem Orderly.countAt_handle (h : session.Orderly) (user text : String) {place : Place}
    (htemporary : ∀ spec ∈ session.bot.listeners, spec.place = place → spec.temporary = true) :
    Listener.countAt place session.world.listeners +
        Listener.countAt place (session.handle user text).journal.attachments =
      Listener.countAt place ((session.firings user text).map Firing.listener) +
        Listener.countAt place (session.handle user text).session.world.listeners := by
  cases hdrops : session.drops user text with
  | true =>
    rw [handle_of_drops hdrops, firings_eq_of_drops hdrops]
    exact Nat.add_comm _ _
  | false =>
    have hround := h.round hdrops
    have hoffered : Listener.countAt place (session.offered user text) =
        Listener.countAt place session.world.listeners +
          Listener.countAt place (session.dispatch user text).journal.attachments := by
      rw [hround.offered, Listener.countAt_append]
    -- Those that are offered the message are those that hear it and those that are kept.
    have hsplit := Listener.countAt_kept user (Text.without '\r' text) fun spec hspec =>
      htemporary spec (h.offered_subset user text hspec)
    rw [hround.journal, hround.listeners, hround.heard, Journal.attachments_append,
      Listener.countAt_append, Listener.countAt_append, Firing.attachments_flatMap]
    omega

/-- The firings of all listeners while a script is played. -/
def fired (session : Session) : List Input → List Firing
  | [] => []
  | .message user text :: script =>
    session.firings user text ++ (session.handle user text).session.fired script
  | .approval user :: script => (session.approve user).fired script

/-- Over a whole script the session stays orderly, and its lasting listeners stay where they are. -/
theorem Orderly.play (h : session.Orderly) (script : List Input) :
    (session.play script).session.Orderly ∧
      Listener.lasting session.world.listeners <+:
        Listener.lasting (session.play script).session.world.listeners := by
  induction script generalizing session with
  | nil => exact ⟨h, List.prefix_rfl⟩
  | cons input script ih =>
    cases input with
    | approval user =>
      have happroved : (session.approve user).Orderly := ⟨h.apart, h.own⟩
      exact ih happroved
    | message user text =>
      obtain ⟨horderly, hlasting⟩ := ih (h.handle user text)
      exact ⟨horderly, (h.lasting_prefix_handle user text).trans hlasting⟩

/-- Over a whole script, what is attached at a place of a temporary listener is accounted for: it
has fired or it still waits. -/
theorem Orderly.countAt_play (h : session.Orderly) {place : Place}
    (htemporary : ∀ spec ∈ session.bot.listeners, spec.place = place → spec.temporary = true)
    (script : List Input) :
    Listener.countAt place session.world.listeners +
        Listener.countAt place (session.play script).journal.attachments =
      Listener.countAt place ((session.fired script).map Firing.listener) +
        Listener.countAt place (session.play script).session.world.listeners := by
  induction script generalizing session with
  | nil => exact Nat.add_comm _ _
  | cons input script ih =>
    cases input with
    | approval user =>
      have happroved : (session.approve user).Orderly := ⟨h.apart, h.own⟩
      exact ih happroved htemporary
    | message user text =>
      have hmessage := h.countAt_handle user text htemporary
      have hlater := ih (h.handle user text)
      rw [session.handle_bot user text] at hlater
      have hscript := hlater htemporary
      simp only [Session.play, fired, Journal.attachments_append, List.map_append,
        Listener.countAt_append]
      omega

/-- The life of listeners. For every bot that a document loads to and every script: each listener
that the document writes has a place of its own, and whatever is attached at any moment is among
these listeners, none of them twice. A message that is not dropped is one round of those that hear
it. A lasting listener is never detached and keeps its place among the lasting ones. A temporary
listener fires once for each time that it was attached, but for the time that it still waits; so it
never fires more often than it was attached. -/
theorem listeners_follow_document {document : Json} {bot : Bot}
    (hload : (Document.load document.collapsed).result = .ok bot) (mark : String) (files : Files)
    (script : List Input) :
    let opening := start (bot.withMark mark) files
    let session := (opening.play script).session
    Listener.Apart bot.specs ∧
      (∀ user text attached, session.AttachedDuring user text attached →
        Listener.Apart attached ∧ attached ⊆ bot.specs) ∧
      (∀ user text, session.drops user text = false → session.Round user text) ∧
      (∀ more, Listener.lasting session.world.listeners <+:
        Listener.lasting (session.play more).session.world.listeners) ∧
      ∀ spec ∈ bot.specs, spec.temporary = true →
        Listener.countAt spec.place ((opening.fired script).map Firing.listener) +
            Listener.countAt spec.place session.world.listeners =
          Listener.countAt spec.place (opening.play script).journal.attachments := by
  obtain ⟨happart, hwritten⟩ := Document.load_specs hload
  have hopening := orderly_start (bot.withMark mark) files
  obtain ⟨horderly, _⟩ := hopening.play script
  have hlisteners : ((start (bot.withMark mark) files).play script).session.bot.listeners =
      bot.listeners := by
    rw [play_bot]
    rfl
  refine ⟨happart, ?_, ?_, ?_, ?_⟩
  · intro user text attached hduring
    obtain ⟨hattached, hown⟩ := horderly.attachedDuring hduring
    rw [hlisteners] at hown
    exact ⟨hattached, List.Subset.trans hown hwritten⟩
  · intro user text hdrops
    exact horderly.round hdrops
  · intro more
    exact (horderly.play more).2
  · intro spec hspec htemporary
    have hplace : ∀ other ∈ (bot.withMark mark).listeners, other.place = spec.place →
        other.temporary = true := by
      intro other hother hsame
      rw [List.inj_on_of_nodup_map happart (hwritten hother) hspec hsame]
      exact htemporary
    have hcount := hopening.countAt_play hplace script
    have hnone : Listener.countAt spec.place
        (start (bot.withMark mark) files).world.listeners = 0 := rfl
    omega

/-- A document with a temporary listener. What it runs stores a value, and the hook of that value
attaches it again. -/
def watchful : Json :=
  .object [("classes", .object []), ("approved_users", .array []), ("restricted", .array []),
    ("public", .array []),
    ("commands", .array [.array [.string "ListenerCommand", .string "watch",
      .object [("trigger", .string "gg"), ("temp", .bool true),
        ("command", .array [.string "StateCommand", .string "last"])]]]),
    ("on_state_change", .object [("last", .string "watch")])]

/-- It is attached by its command and again each time that it fires, so it has fired twice and still
waits after it was attached three times. -/
theorem watchful_refires :
    let script : List Input :=
      [.message "host" "!watch", .message "viewer" "gg one", .message "viewer" "gg two"]
    ∃ bot, (Document.load watchful.collapsed).result = .ok bot ∧
      ∃ spec ∈ bot.specs, spec.temporary = true ∧
        let opening := start (bot.withMark "!") .empty
        Listener.countAt spec.place ((opening.fired script).map Firing.listener) = 2 ∧
          Listener.countAt spec.place (opening.play script).journal.attachments = 3 ∧
          Listener.countAt spec.place (opening.play script).session.world.listeners = 1 ∧
          Listener.Apart (opening.play script).session.world.listeners := by
  intro script
  have hchecked : (Document.load watchful.collapsed).result.toOption.any (fun bot =>
      bot.specs.any fun spec =>
        let opening := start (bot.withMark "!") .empty
        spec.temporary &&
          Listener.countAt spec.place ((opening.fired script).map Firing.listener) == 2 &&
          Listener.countAt spec.place (opening.play script).journal.attachments == 3) = true := by
    decide +kernel
  obtain ⟨bot, hload, hany⟩ := exists_of_any_toOption hchecked
  obtain ⟨spec, hspec, hall⟩ := List.any_eq_true.1 hany
  simp only [Bool.and_eq_true, beq_iff_eq] at hall
  obtain ⟨⟨htemporary, hfired⟩, hattached⟩ := hall
  obtain ⟨_, hduring, _, _, hcount⟩ := listeners_follow_document hload "!" .empty script
  have hconserved := hcount spec hspec htemporary
  obtain ⟨happart, _⟩ := hduring "viewer" "gg" _ .before
  refine ⟨bot, hload, spec, hspec, htemporary, hfired, hattached, ?_, happart⟩
  omega

end Session

end CommandBot
