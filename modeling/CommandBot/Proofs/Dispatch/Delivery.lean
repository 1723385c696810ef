import CommandBot.Dispatch
import CommandBot.Proofs.Session.Script

namespace CommandBot

/-- A message as it comes to a session. -/
def ChatMessage.input (message : ChatMessage) : Input := .message message.user message.text

/-- The lines said, in order, whichever message they answer. -/
def Transcript.lines (transcript : Transcript) : List String := transcript.replies.flatten

/-- What a session comes to when it handles messages in order, all its lines being taken. -/
def Session.answer (session : Session) (messages : List ChatMessage) : Transcript :=
  session.play (messages.map ChatMessage.input)

/-- The lines of the first message come first, and the session that it leaves says the others. -/
theorem Session.answer_lines_cons (session : Session) (message : ChatMessage)
    (messages : List ChatMessage) :
    (session.answer (message :: messages)).lines =
      (session.handle message.user message.text).lines ++
        ((session.handle message.user message.text).session.answer messages).lines :=
  rfl

namespace Dispatch

/-- A loop has read these messages and no others: it leaves the session that they leave, and what
happened is what they brought about. -/
structure Run.HasRead (run : Run) (start : Session) (messages : List ChatMessage) : Prop where
  session : run.session = (start.answer messages).session
  journal : run.journal = (start.answer messages).journal

theorem send_none (lines : List String) : send none lines = ⟨lines, some none⟩ := by
  induction lines with
  | nil => rfl
  | cons line lines ih => simp [send, Room.next?, ih]

theorem listen_none_cons (session : Session) (message : ChatMessage) (messages : List ChatMessage) :
    listen none session (message :: messages) =
      let reply := session.handle message.user message.text
      let later := listen none reply.session messages
      { later with
        lines := reply.lines ++ later.lines
        journal := reply.journal ++ later.journal } := by
  simp only [listen, send_none]

/-- A loop whose lines are all taken may stop between two messages and go on from the session that
it has come to. -/
theorem listen_none_append (session : Session) (messages later : List ChatMessage) :
    listen none session (messages ++ later) =
      let first := listen none session messages
      let next := listen none first.session later
      { next with
        lines := first.lines ++ next.lines
        journal := first.journal ++ next.journal } := by
  induction messages generalizing session with
  | nil => rfl
  | cons message messages ih =>
    simp only [List.cons_append, listen_none_cons, ih, List.append_assoc]

/-- A loop whose lines are all taken may be cut between the join message and the first message. -/
theorem run_none_eq (session : Session) (joinMessage : Option String)
    (messages : List ChatMessage) :
    run none session joinMessage messages =
      let greeting := run none session joinMessage []
      let later := listen none greeting.session messages
      { later with
        lines := greeting.lines ++ later.lines
        journal := greeting.journal ++ later.journal } := by
  simp [run, send_none, listen]

theorem listen_none_result (session : Session) (messages : List ChatMessage) :
    (listen none session messages).result = .ok () := by
  induction messages generalizing session with
  | nil => rfl
  | cons message messages ih => rw [listen_none_cons, ih]

/-- A loop whose lines are all taken never stops early. -/
theorem run_none_result (session : Session) (joinMessage : Option String)
    (messages : List ChatMessage) :
    (run none session joinMessage messages).result = .ok () := by
  rw [run_none_eq, listen_none_result]

/-- Lines are taken as long as there is room, and room is left if there was room for all. -/
theorem send_some (k : Nat) (lines : List String) :
    send (some k) lines =
      ⟨lines.take k, if lines.length ≤ k then some (some (k - lines.length)) else none⟩ := by
  induction lines generalizing k with
  | nil => simp [send]
  | cons line lines ih =>
    cases k with
    | zero => simp [send, Room.next?]
    | succ k => simp [send, Room.next?, ih]

section Listening

variable {k : Nat} {session : Session} {message : ChatMessage} {messages : List ChatMessage}

/-- A message whose lines all fit takes their room from the later ones. -/
theorem listen_of_le
    (hfits : (session.handle message.user message.text).lines.length ≤ k) :
    listen (some k) session (message :: messages) =
      let reply := session.handle message.user message.text
      let later := listen (some (k - reply.lines.length)) reply.session messages
      { later with
        lines := reply.lines ++ later.lines
        journal := reply.journal ++ later.journal } := by
  simp only [listen, send_some, if_pos hfits, List.take_of_length_le hfits]

/-- A message whose lines do not all fit is the last one that is read. It is handled before its
lines are sent, so what it brings about is done nevertheless. -/
theorem listen_of_lt
    (hfull : k < (session.handle message.user message.text).lines.length) :
    listen (some k) session (message :: messages) =
      let reply := session.handle message.user message.text
      ⟨reply.session, .listening, reply.lines.take k, reply.journal,
        .error .closedWhileSending⟩ := by
  simp only [listen, send_some, if_neg (Nat.not_le.2 hfull)]

end Listening

/-- What listening comes to with room for `k` lines, by induction on the messages: each message is
either answered in full, leaving less room for the later ones, or is the last one that is read. -/
theorem listen_some (k : Nat) (session : Session) (messages : List ChatMessage) :
    let said := (session.answer messages).lines
    let run := listen (some k) session messages
    run.lines = said.take k ∧ run.phase = .listening ∧
      (said.length ≤ k → run.result = .ok () ∧ run.HasRead session messages) ∧
      (k < said.length → run.result = .error .closedWhileSending ∧
        ∃ before message after, messages = before ++ message :: after ∧
          (session.answer before).lines.length ≤ k ∧
          k < (session.answer (before ++ [message])).lines.length ∧
          run.HasRead session (before ++ [message])) := by
  induction messages generalizing k session with
  | nil =>
    refine ⟨List.take_nil.symm, rfl, fun _ => ⟨rfl, rfl, rfl⟩, ?_⟩
    intro hfew
    cases hfew
  | cons message messages ih =>
    simp only [session.answer_lines_cons, List.length_append, List.take_append]
    rcases Nat.lt_or_ge k (session.handle message.user message.text).lines.length with hfull | hfits
    · rw [listen_of_lt hfull]
      refine ⟨?_, rfl, by omega, fun _ => ⟨rfl, [], message, messages, rfl, Nat.zero_le k, ?_, ?_⟩⟩
      · rw [Nat.sub_eq_zero_of_le (Nat.le_of_lt hfull), List.take_zero, List.append_nil]
      · rw [List.nil_append, session.answer_lines_cons, List.length_append]
        omega
      · exact ⟨rfl, (List.append_nil _).symm⟩
    · obtain ⟨hlines, hphase, hok, hclosed⟩ :=
        ih (k - (session.handle message.user message.text).lines.length)
          (session.handle message.user message.text).session
      rw [listen_of_le hfits]
      refine ⟨?_, hphase, ?_, ?_⟩
      · rw [List.take_of_length_le hfits]
        exact congrArg _ hlines
      · intro hroom
        obtain ⟨hresult, hread⟩ := hok (by omega)
        exact ⟨hresult, hread.session, congrArg _ hread.journal⟩
      · intro hroom
        obtain ⟨hresult, before, last, after, rfl, hfew, hmany, hread⟩ := hclosed (by omega)
        refine ⟨hresult, message :: before, last, after, rfl, ?_, ?_, ?_⟩
        · rw [session.answer_lines_cons, List.length_append]
          omega
        · rw [List.cons_append, session.answer_lines_cons, List.length_append]
          omega
        · exact ⟨hread.session, congrArg _ hread.journal⟩

/-- The loop delivers what the session says, in order, as far as the other side takes it. Of the
join message and the lines that answer the messages, the first `k` are delivered if `k` lines are
taken. The loop succeeds if and only if these are all of them, and then every message has been
handled. If the join message is refused, no message is read; otherwise the loop reads on up to the
message whose lines hold line number `k + 1`, and what that message brings about is done too. -/
theorem delivers_in_order (session : Session) (joinMessage : Option String)
    (messages : List ChatMessage) (k : Nat) :
    let greeting := joinMessage.toList
    let all := greeting ++ (session.answer messages).lines
    let run := Dispatch.run (some k) session joinMessage messages
    run.lines = all.take k ∧
      (run.result = .ok () ↔ all.length ≤ k) ∧
      (all.length ≤ k → run.phase = .listening ∧ run.HasRead session messages) ∧
      (k < greeting.length → run.result = .error .closedBeforeJoinMessage ∧
        run.phase = .connected ∧ run.HasRead session []) ∧
      (greeting.length ≤ k → k < all.length → run.result = .error .closedWhileSending ∧
        run.phase = .listening ∧
        ∃ before message after, messages = before ++ message :: after ∧
          (greeting ++ (session.answer before).lines).length ≤ k ∧
          k < (greeting ++ (session.answer (before ++ [message])).lines).length ∧
          run.HasRead session (before ++ [message])) := by
  obtain ⟨hlines, hphase, hok, hclosed⟩ :=
    listen_some (k - joinMessage.toList.length) session messages
  simp only [List.length_append, List.take_append]
  rcases Nat.lt_or_ge k joinMessage.toList.length with hfull | hfits
  · have hrun : run (some k) session joinMessage messages =
        ⟨session, .connected, joinMessage.toList.take k, [], .error .closedBeforeJoinMessage⟩ := by
      simp only [run, send_some, if_neg (Nat.not_le.2 hfull)]
    rw [hrun]
    refine ⟨?_, ?_, by omega, fun _ => ⟨rfl, rfl, rfl, rfl⟩, by omega⟩
    · rw [Nat.sub_eq_zero_of_le (Nat.le_of_lt hfull), List.take_zero, List.append_nil]
    · constructor
      · rintro ⟨⟩
      · intro hroom
        omega
  · have hrun : run (some k) session joinMessage messages =
        let later := listen (some (k - joinMessage.toList.length)) session messages
        { later with lines := joinMessage.toList ++ later.lines } := by
      simp only [run, send_some, if_pos hfits, List.take_of_length_le hfits]
    rw [hrun]
    refine ⟨?_, ?_, ?_, by omega, ?_⟩
    · rw [List.take_of_length_le hfits]
      exact congrArg _ hlines
    · constructor
      · intro hresult
        apply Nat.le_of_not_lt
        intro hmany
        obtain ⟨herror, _⟩ := hclosed (by omega)
        exact absurd (hresult.symm.trans herror) (by simp)
      · intro hroom
        exact (hok (by omega)).1
    · intro hroom
      obtain ⟨_, hread⟩ := hok (by omega)
      exact ⟨hphase, hread.session, hread.journal⟩
    · intro _ hmany
      obtain ⟨hresult, before, last, after, hmessages, hfew, hmany, hread⟩ := hclosed (by omega)
      exact ⟨hresult, hphase, before, last, after, hmessages, by omega, by omega, hread.session,
        hread.journal⟩

end Dispatch

end CommandBot
