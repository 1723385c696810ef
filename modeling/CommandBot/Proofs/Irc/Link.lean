import CommandBot.Irc.Link
import CommandBot.Proofs.Interleaves

namespace CommandBot.Irc

/-- Something enters a queue that has room for it, behind what is there. -/
theorem push?_eq_some_iff {α : Type} {queue next : List α} {x : α} :
    push? queue x = some next ↔ queue.length < capacity ∧ queue ++ [x] = next := by
  simp [push?]

theorem messages_cons (channel line : String) (lines : List String) :
    messages channel (line :: lines) =
      (if (pong? line).isNone then (message? channel line).toList else []) ++
        messages channel lines := by
  cases hpong : pong? line <;> cases hmessage : message? channel line <;>
    simp [messages, hpong, hmessage]

theorem pongs_cons (line : String) (lines : List String) :
    pongs (line :: lines) = (pong? line).toList ++ pongs lines := by
  cases hpong : pong? line <;> simp [pongs, hpong]

namespace Link

variable {channel : String} {server : List String} {link next : Link}

/-! ### One move -/

/-- All that one move can be. -/
inductive Step (channel : String) (link : Link) : Move → Link → Prop where
  | readEnd (hreading : link.reading = true) (hunread : link.unread = []) :
      Step channel link .read { link with reading := false }
  | readOther {line : String} {unread : List String} (hreading : link.reading = true)
      (hunread : link.unread = line :: unread) (hpong : pong? line = none)
      (hmessage : message? channel line = none) :
      Step channel link .read { link with unread }
  | answer {line pong : String} {unread : List String} (hreading : link.reading = true)
      (hunread : link.unread = line :: unread) (hpong : pong? line = some pong)
      (hwriter : link.writer = .running) (hroom : link.answers.length < capacity) :
      Step channel link .read { link with unread, answers := link.answers ++ [pong] }
  | answerLost {line pong : String} {unread : List String} (hreading : link.reading = true)
      (hunread : link.unread = line :: unread) (hpong : pong? line = some pong)
      (hwriter : link.writer ≠ .running) :
      Step channel link .read { link with unread, reading := false }
  | deliver {line : String} {message : ChatMessage} {unread : List String}
      (hreading : link.reading = true) (hunread : link.unread = line :: unread)
      (hpong : pong? line = none) (hmessage : message? channel line = some message)
      (hhearing : link.hearing = true) (hroom : link.inbox.length < capacity) :
      Step channel link .read { link with unread, inbox := link.inbox ++ [message] }
  | deliverLost {line : String} {message : ChatMessage} {unread : List String}
      (hreading : link.reading = true) (hunread : link.unread = line :: unread)
      (hpong : pong? line = none) (hmessage : message? channel line = some message)
      (hhearing : link.hearing ≠ true) :
      Step channel link .read { link with unread, reading := false }
  | hear {message : ChatMessage} {inbox : List ChatMessage} (hhearing : link.hearing = true)
      (hinbox : link.inbox = message :: inbox) :
      Step channel link .hear { link with inbox, heard := link.heard ++ [message] }
  | deafen (hhearing : link.hearing = true) :
      Step channel link .deafen { link with hearing := false, inbox := [] }
  | say {text : String} (htalking : link.talking = true) (hwriter : link.writer = .running)
      (hroom : link.outbox.length < capacity) :
      Step channel link (.say text)
        { link with outbox := link.outbox ++ [text], said := link.said ++ [text] }
  | hangUp (htalking : link.talking = true) :
      Step channel link .hangUp { link with talking := false }
  | writeLine {text : String} {outbox : List String} (works : Bool)
      (hwriter : link.writer = .running) (houtbox : link.outbox = text :: outbox) :
      Step channel link (.writeLine works) ({ link with outbox }.write (frame channel text) works)
  | writePong {pong : String} {answers : List String} (works : Bool)
      (hwriter : link.writer = .running) (hanswers : link.answers = pong :: answers) :
      Step channel link (.writePong works) ({ link with answers }.write pong works)
  | finish (hwriter : link.writer = .running) (hreading : link.reading = false)
      (htalking : link.talking = false) (hanswers : link.answers = [])
      (houtbox : link.outbox = []) :
      Step channel link .finish { link with writer := .finished }

/-- A line that is read is answered, delivered or passed over. -/
theorem Step.of_read? (hreading : link.reading = true) (h : link.read? channel = some next) :
    Step channel link .read next := by
  unfold read? at h
  split at h
  next hunread =>
    cases h
    exact .readEnd hreading hunread
  next line unread hunread =>
    split at h
    next pong hpong =>
      split at h
      next hwriter =>
        obtain ⟨_, hpush, rfl⟩ := Option.map_eq_some_iff.1 h
        obtain ⟨hroom, rfl⟩ := push?_eq_some_iff.1 hpush
        exact .answer hreading hunread hpong hwriter hroom
      next hwriter =>
        cases h
        exact .answerLost hreading hunread hpong hwriter
    next hpong =>
      split at h
      next hmessage =>
        cases h
        exact .readOther hreading hunread hpong hmessage
      next message hmessage =>
        split at h
        next hhearing =>
          obtain ⟨_, hpush, rfl⟩ := Option.map_eq_some_iff.1 h
          obtain ⟨hroom, rfl⟩ := push?_eq_some_iff.1 hpush
          exact .deliver hreading hunread hpong hmessage hhearing hroom
        next hhearing =>
          cases h
          exact .deliverLost hreading hunread hpong hmessage hhearing

/-- The steps are the moves, with everything that a move needs and does. So a fact about a move is
shown case by case. -/
theorem step?_eq_some_iff {move : Move} :
    link.step? channel move = some next ↔ Step channel link move next := by
  constructor
  · intro h
    cases move with
    | read =>
      obtain ⟨hreading, h⟩ := Option.ite_none_right_eq_some.1 h
      exact .of_read? hreading h
    | hear =>
      simp only [step?] at h
      split at h
      next hhearing hinbox =>
        cases h
        exact .hear hhearing hinbox
      · cases h
    | deafen =>
      obtain ⟨hhearing, h⟩ := Option.ite_none_right_eq_some.1 h
      cases h
      exact .deafen hhearing
    | say text =>
      obtain ⟨⟨htalking, hwriter⟩, h⟩ := Option.ite_none_right_eq_some.1 h
      obtain ⟨_, hpush, rfl⟩ := Option.map_eq_some_iff.1 h
      obtain ⟨hroom, rfl⟩ := push?_eq_some_iff.1 hpush
      exact .say htalking hwriter hroom
    | hangUp =>
      obtain ⟨htalking, h⟩ := Option.ite_none_right_eq_some.1 h
      cases h
      exact .hangUp htalking
    | writeLine works =>
      simp only [step?] at h
      split at h
      next hwriter houtbox =>
        cases h
        exact .writeLine works hwriter houtbox
      · cases h
    | writePong works =>
      simp only [step?] at h
      split at h
      next hwriter hanswers =>
        cases h
        exact .writePong works hwriter hanswers
      · cases h
    | finish =>
      obtain ⟨⟨hwriter, hreading, htalking, hanswers, houtbox⟩, h⟩ :=
        Option.ite_none_right_eq_some.1 h
      cases h
      exact .finish hwriter hreading htalking hanswers houtbox
  · intro h
    cases h <;> simp_all [step?, read?, push?]

/-- The bot hears, and no write has failed. -/
structure Undisturbed (link : Link) : Prop where
  hearing : link.hearing = true
  writing : link.writer ≠ .failed

/-- Whatever disturbs the connection, it stays disturbed. -/
theorem Undisturbed.of_step {move : Move} (h : Step channel link move next)
    (hnext : Undisturbed next) : Undisturbed link := by
  obtain ⟨hhearing, hwriting⟩ := hnext
  cases h with
  | writeLine works hwriter _ => cases works <;> exact ⟨hhearing, by simp [hwriter]⟩
  | writePong works hwriter _ => cases works <;> exact ⟨hhearing, by simp [hwriter]⟩
  | finish hwriter => exact ⟨hhearing, by simp [hwriter]⟩
  | deafen => cases hhearing
  | _ => exact ⟨hhearing, hwriting⟩

/-- Nothing that the server has sent or the bot has said is lost, repeated or overtaken: it has
arrived, is in a queue or is still to be read. It holds as long as the bot hears and every write
works. -/
structure Follows (channel : String) (server : List String) (link : Link) : Prop where
  delivered : link.heard ++ link.inbox ++ messages channel link.unread =
    messages channel server
  written : ∃ answered sent, answered ++ link.answers ++ pongs link.unread = pongs server ∧
    sent ++ link.outbox = link.said ∧ Interleaves answered (sent.map (frame channel)) link.wire
  exhausted : link.reading = false → link.unread = []
  finished : link.writer = .finished → link.reading = false ∧ link.answers = [] ∧ link.outbox = []

/-- At first everything is still to be read. -/
theorem follows_opened (channel : String) (server : List String) :
    Follows channel server (opened server) where
  delivered := rfl
  written := ⟨[], [], rfl, rfl, .nil⟩
  exhausted := by simp [opened]
  finished := by simp [opened]

/-- While the reader reads, the writer goes on. -/
theorem Follows.writer_ne_finished (hf : Follows channel server link)
    (hreading : link.reading = true) : link.writer ≠ .finished := by
  intro hwriter
  have hstopped := (hf.finished hwriter).1
  rw [hreading] at hstopped
  cases hstopped

/-- A line that is read goes on as what it is: an answer, a message or nothing. -/
theorem Follows.readLine {line : String} {unread : List String} (hf : Follows channel server link)
    (hreading : link.reading = true) (hunread : link.unread = line :: unread) :
    Follows channel server { link with
      unread
      inbox := link.inbox ++ if (pong? line).isNone then (message? channel line).toList else []
      answers := link.answers ++ (pong? line).toList } := by
  obtain ⟨answered, sent, hanswered, hsent, hwire⟩ := hf.written
  refine { delivered := ?_, written := ⟨answered, sent, ?_, hsent, hwire⟩, exhausted := ?_,
           finished := fun hwriter => absurd hwriter (hf.writer_ne_finished hreading) }
  · simpa [hunread, messages_cons] using hf.delivered
  · simpa [hunread, pongs_cons] using hanswered
  · simp [hreading]

/-- A move that leaves the connection undisturbed takes nothing away and puts nothing in. -/
theorem Follows.step {move : Move} (hf : Follows channel server link)
    (h : Step channel link move next) (hnext : Undisturbed next) : Follows channel server next := by
  obtain ⟨answered, sent, hanswered, hsent, hwire⟩ := hf.written
  cases h with
  | readEnd hreading hunread =>
    exact { hf with
      exhausted := fun _ => hunread
      finished := fun hwriter => absurd hwriter (hf.writer_ne_finished hreading) }
  | readOther hreading hunread hpong hmessage =>
    simpa [hpong, hmessage] using hf.readLine hreading hunread
  | answer hreading hunread hpong hwriter hroom =>
    simpa [hpong] using hf.readLine hreading hunread
  | answerLost hreading hunread hpong hwriter =>
    -- The writer stops before the reader only if a write has failed.
    have hfailed : link.writer = .failed := by
      cases hw : link.writer with
      | running => exact absurd hw hwriter
      | finished => exact absurd hw (hf.writer_ne_finished hreading)
      | failed => rfl
    exact absurd hfailed hnext.writing
  | deliver hreading hunread hpong hmessage hhearing hroom =>
    simpa [hpong, hmessage] using hf.readLine hreading hunread
  | deliverLost hreading hunread hpong hmessage hhearing => exact absurd hnext.hearing hhearing
  | hear hhearing hinbox =>
    exact { hf with delivered := by simpa [hinbox] using hf.delivered }
  | deafen hhearing => cases hnext.hearing
  | say htalking hwriter hroom =>
    exact { hf with
      written := ⟨answered, sent, hanswered, by simp [← hsent], hwire⟩
      finished := fun hfinished => by simp [hwriter] at hfinished }
  | hangUp htalking => exact { hf with }
  | @writeLine text _ works hwriter houtbox =>
    cases works with
    | false => cases hnext.writing rfl
    | true =>
      refine { hf with
        written := ⟨answered, sent ++ [text], hanswered, by simp [write, ← hsent, houtbox], ?_⟩
        finished := fun hfinished => by simp [write, hwriter] at hfinished }
      simpa [write] using hwire.concat_right (frame channel text)
  | @writePong pong _ works hwriter hanswers =>
    cases works with
    | false => cases hnext.writing rfl
    | true =>
      refine { hf with
        written := ⟨answered ++ [pong], sent, ?_, hsent, hwire.concat_left pong⟩
        finished := fun hfinished => by simp [write, hwriter] at hfinished }
      simpa [write, hanswers] using hanswered
  | finish hwriter hreading htalking hanswers houtbox =>
    exact { hf with finished := fun _ => ⟨hreading, hanswers, houtbox⟩ }

/-! ### A whole run -/

theorem run?_cons_eq_some_iff {move : Move} {moves : List Move} :
    link.run? channel (move :: moves) = some next ↔
      ∃ middle, Step channel link move middle ∧ middle.run? channel moves = some next := by
  simp [run?, Option.bind_eq_some_iff, step?_eq_some_iff]

theorem Undisturbed.of_run {moves : List Move} (h : link.run? channel moves = some next)
    (hnext : Undisturbed next) : Undisturbed link := by
  induction moves generalizing link with
  | nil =>
    cases h
    exact hnext
  | cons move moves ih =>
    obtain ⟨middle, hstep, hrun⟩ := run?_cons_eq_some_iff.1 h
    exact .of_step hstep (ih hrun)

/-- A whole run that leaves the connection undisturbed loses nothing, by induction on its moves. -/
theorem Follows.run {moves : List Move} (hf : Follows channel server link)
    (h : link.run? channel moves = some next) (hnext : Undisturbed next) :
    Follows channel server next := by
  induction moves generalizing link with
  | nil =>
    cases h
    exact hf
  | cons move moves ih =>
    obtain ⟨middle, hstep, hrun⟩ := run?_cons_eq_some_iff.1 h
    exact ih (hf.step hstep (.of_run hrun hnext)) hrun

/-- Once the reader has stopped, every message of the server is delivered. -/
theorem Follows.delivered_of_stopped (hf : Follows channel server link)
    (hreading : link.reading = false) : link.heard ++ link.inbox = messages channel server := by
  have hunread := hf.exhausted hreading
  simpa [hunread, messages] using hf.delivered

/-- Once the writer has finished, every answer and every line is written, the answers among
themselves and the lines among themselves in order. -/
theorem Follows.interleaves_of_finished (hf : Follows channel server link)
    (hfinished : link.writer = .finished) :
    Interleaves (pongs server) (link.said.map (frame channel)) link.wire := by
  obtain ⟨hreading, hanswers, houtbox⟩ := hf.finished hfinished
  have hunread := hf.exhausted hreading
  obtain ⟨answered, sent, hanswered, hsent, hwire⟩ := hf.written
  obtain rfl : answered = pongs server := by
    simpa [hanswers, hunread, pongs] using hanswered
  obtain rfl : sent = link.said := by simpa [houtbox] using hsent
  exact hwire

end Link

end CommandBot.Irc
