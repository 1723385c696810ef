import CommandBot.Program
import CommandBot.Proofs.Irc.Schedule

namespace CommandBot.Irc

/-- The line confirms the join: it is no ping, and ends the list of names. -/
def Confirms (line : String) : Prop := pong? line = none ∧ isEndOfNames line = true

instance (line : String) : Decidable (Confirms line) :=
  inferInstanceAs (Decidable (pong? line = none ∧ isEndOfNames line = true))

/-- A line either confirms the join, which ends the wait, or is answered if it is a ping and passed
over if it is not. -/
theorem awaitJoin_cons (line : String) (lines : List String) :
    awaitJoin (line :: lines) =
      if Confirms line then ⟨[], some lines⟩
      else ⟨(pong? line).toList ++ (awaitJoin lines).pongs, (awaitJoin lines).rest⟩ := by
  cases hpong : pong? line with
  | some pong => simp [awaitJoin, Confirms, hpong]
  | none => by_cases hnames : isEndOfNames line = true <;> simp [awaitJoin, Confirms, hpong, hnames]

/-- Until a line confirms the join, each one is either answered or passed over. -/
theorem awaitJoin_append {before : List String} (h : ∀ line ∈ before, ¬ Confirms line)
    (rest : List String) :
    awaitJoin (before ++ rest) =
      ⟨before.filterMap pong? ++ (awaitJoin rest).pongs, (awaitJoin rest).rest⟩ := by
  induction before with
  | nil => rfl
  | cons line before ih =>
    obtain ⟨hline, hbefore⟩ := List.forall_mem_cons.1 h
    rw [List.cons_append, awaitJoin_cons, if_neg hline, ih hbefore]
    cases hpong : pong? line <;> simp [hpong]

/-- The wait ends with the line that confirms the join, and what comes after it is not touched. -/
theorem awaitJoin_eq {before : List String} (h : ∀ line ∈ before, ¬ Confirms line) {line : String}
    (hline : Confirms line) (later : List String) :
    awaitJoin (before ++ line :: later) = ⟨before.filterMap pong?, some later⟩ := by
  simp [awaitJoin_append h, awaitJoin_cons, if_pos hline]

/-- A server that never confirms the join gets an answer to each ping, and nobody hears of it. One
that does gets the answers to the pings before that, and is then followed to its end. In every run
of the connection in which the bot goes on hearing and no write fails, all messages after the
confirmation are delivered, in order, once the reader stops, and once the writer has finished its
wire is an interleaving of the answers to the later pings with the frames of the lines said. Each
such interleaving is the wire of some run. -/
theorem conversation_followed (account : Account) (before : List String)
    (h : ∀ line ∈ before, ¬ Confirms line) :
    converse account ⟨before, false⟩ =
      ⟨account.login, before.filterMap pong?, .error .closedBeforeJoin⟩ ∧
    ∀ line later, Confirms line →
      let chat :=
        (later.filter fun line => (pong? line).isNone).filterMap (message? account.channel)
      awaitJoin (before ++ line :: later) = ⟨before.filterMap pong?, some later⟩ ∧
      converse account ⟨before ++ line :: later, false⟩ =
        ⟨account.login, before.filterMap pong? ++ later.filterMap pong?, .ok chat⟩ ∧
      (∀ moves link, (Link.opened later).run? account.channel moves = some link →
        link.hearing = true → link.writer ≠ .failed →
        (link.reading = false → link.heard ++ link.inbox = chat) ∧
        (link.writer = .finished → link.reading = false ∧
          Interleaves (later.filterMap pong?) (link.said.map (frame account.channel)) link.wire)) ∧
      ∀ texts wire, Interleaves (later.filterMap pong?) (texts.map (frame account.channel)) wire →
        ∃ moves link, (Link.opened later).run? account.channel moves = some link ∧
          link.hearing = true ∧ link.writer = .finished ∧ link.heard = chat ∧ link.said = texts ∧
          link.wire = wire := by
  constructor
  · have hjoin : awaitJoin before = ⟨before.filterMap pong?, none⟩ := by
      simpa [awaitJoin] using awaitJoin_append h []
    simp [converse, hjoin]
  · intro line later hline chat
    have hjoin := awaitJoin_eq h hline later
    refine ⟨hjoin, ?_, ?_, fun texts wire hwire => Link.exists_run_of_interleaves hwire⟩
    · rw [converse, hjoin]
      rfl
    · intro moves link hrun hhearing hwriting
      have hf := (Link.follows_opened account.channel later).run hrun ⟨hhearing, hwriting⟩
      exact ⟨hf.delivered_of_stopped, fun hfinished =>
        ⟨(hf.finished hfinished).1, hf.interleaves_of_finished hfinished⟩⟩

/-- A server that pings before and after the join, and a bot that speaks in between. -/
theorem conversation_followed_pings :
    let later := ["PING :b", ":u!u@u PRIVMSG #host :hi"]
    let moves : List Move :=
      [.read, .say "hello", .read, .writeLine true, .hear, .writePong true, .hangUp, .read, .finish]
    let link : Link :=
      { Link.opened [] with
        heard := [⟨"u", "hi"⟩]
        said := ["hello"]
        wire := ["PRIVMSG #host :hello\r\n", "PONG :b\r\n"]
        reading := false
        talking := false
        writer := .finished }
    awaitJoin (["PING :a", ":tmi 353 bot = #host :bot"] ++ ":tmi 366 bot #host :End" :: later) =
        ⟨["PONG :a\r\n"], some later⟩ ∧
      (Link.opened later).run? "#host" moves = some link ∧
      link.heard ++ link.inbox = [⟨"u", "hi"⟩] ∧
      Interleaves ["PONG :b\r\n"] ["PRIVMSG #host :hello\r\n"] link.wire := by
  intro later moves link
  have hrun : (Link.opened later).run? "#host" moves = some link := by decide
  obtain ⟨-, hconfirmed⟩ := conversation_followed ⟨"host", 6667, "bot", "password", "#host"⟩
    ["PING :a", ":tmi 353 bot = #host :bot"] (by decide)
  obtain ⟨hjoin, -, hlink, -⟩ := hconfirmed ":tmi 366 bot #host :End" later (by decide)
  obtain ⟨hdelivered, hwritten⟩ := hlink moves link hrun rfl (by decide)
  exact ⟨hjoin, hrun, hdelivered rfl, (hwritten rfl).2⟩

/-- The program writes what one run of the connection writes, in which the bot hears every message
and says the lines of the dispatch loop. -/
theorem runIrc_eq_run (ready : Program.Ready) (account : Account) {bytes : ByteArray}
    {before later : List String} {line : String} {broken : Bool}
    (hserver : Text.Lines.ofBytes bytes = ⟨before ++ line :: later, broken⟩)
    (hbefore : ∀ line ∈ before, ¬ Confirms line) (hline : Confirms line) :
    ∃ moves link, (Link.opened later).run? account.channel moves = some link ∧
      link.hearing = true ∧ link.writer = .finished ∧
      let run := Dispatch.run none ready.joined ready.settings.joinMessage link.heard
      link.said = run.lines ∧ ready.runIrc account (some bytes) =
        ⟨[], some (account.login ++ before.filterMap pong? ++ link.wire),
          Program.failure? run⟩ := by
  let run := Dispatch.run none ready.joined ready.settings.joinMessage
    (messages account.channel later)
  obtain ⟨moves, link, hrun, hhearing, hfinished, hheard, hsaid, hwire⟩ :=
    Link.exists_run_of_interleaves
      (Interleaves.append (pongs later) (run.lines.map (frame account.channel)))
  have hjoin := awaitJoin_eq hbefore hline later
  refine ⟨moves, link, hrun, hhearing, hfinished, ?_⟩
  rw [hheard, hwire]
  refine ⟨hsaid, ?_⟩
  simp [Program.Ready.runIrc, hserver, converse, hjoin, run]

end CommandBot.Irc
