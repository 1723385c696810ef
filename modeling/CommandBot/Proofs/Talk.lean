import CommandBot.Proofs.Dispatch.Delivery
import CommandBot.Proofs.Irc.Conversation
import CommandBot.Proofs.Text.Lines
import CommandBot.Talk

namespace CommandBot

namespace Chat

theorem filterMap_message?_console (lines : List String) :
    lines.filterMap console.message? = lines.map Console.message :=
  congrFun List.filterMap_eq_map lines

theorem filterMap_reply?_console (lines : List String) : lines.filterMap console.reply? = [] :=
  List.filterMap_eq_nil_iff.2 fun _ _ => rfl

/-- Line by line, a channel has the messages that its lines have together. -/
theorem filterMap_message?_channel (name : String) (lines : List String) :
    lines.filterMap (channel name).message? = Irc.messages name lines := by
  rw [Irc.messages, List.filterMap_filter]
  rfl

theorem filterMap_reply?_channel (name : String) (lines : List String) :
    lines.filterMap (channel name).reply? = Irc.pongs lines :=
  rfl

end Chat

namespace Program

/-- The dispatch loop is no reason to fail as long as every line is taken. -/
theorem failure?_run_none (session : Session) (joinMessage : Option String)
    (messages : List ChatMessage) :
    failure? (Dispatch.run none session joinMessage messages) = none := by
  rw [failure?, Dispatch.run_none_result]

/-- One answer after the other. -/
def Answer.andThen (first : Answer) (later : Talk → Answer) : Answer :=
  let next := later first.talk
  ⟨next.talk, first.written ++ next.written, first.journal ++ next.journal⟩

namespace Ready

/-- What lines of input bring about, each being answered before the next one is read. -/
def answerAll (ready : Ready) (talk : Talk) : List String → Answer
  | [] => ⟨talk, [], []⟩
  | line :: lines => (ready.answer talk line).andThen (ready.answerAll · lines)

variable (ready : Ready)

/-- In a chat, answering line by line is listening to all messages at once. What is written is the
lines said, in order, and somewhere between them the replies to single lines of input. -/
theorem answerAll_attending (chat : Chat) (session : Session) (lines : List String) :
    let run := Dispatch.listen none session (lines.filterMap chat.message?)
    let all := ready.answerAll (.attending chat session) lines
    all.talk = .attending chat run.session ∧ all.journal = run.journal ∧
      Interleaves (lines.filterMap chat.reply?) (run.lines.map chat.frame) all.written := by
  induction lines generalizing session with
  | nil => exact ⟨rfl, rfl, .nil⟩
  | cons line lines ih =>
    let now := Dispatch.listen none session (chat.message? line).toList
    obtain ⟨htalk, hjournal, hwritten⟩ := ih now.session
    have hcons {α : Type} (f : String → Option α) :
        (line :: lines).filterMap f = (f line).toList ++ lines.filterMap f := by
      cases h : f line <;> simp [h]
    rw [hcons, hcons, Dispatch.listen_none_append]
    refine ⟨htalk, congrArg (now.journal ++ ·) hjournal, ?_⟩
    rw [List.map_append]
    exact .join (.append _ _) hwritten

/-- With the join message before the first line, the messages in the lines come to what the dispatch
loop makes of them. -/
theorem enter_answerAll (chat : Chat) (session : Session) (lines : List String) :
    let run := Dispatch.run none session ready.settings.joinMessage (lines.filterMap chat.message?)
    let all := (ready.enter chat session).andThen (ready.answerAll · lines)
    all.talk = .attending chat run.session ∧ all.journal = run.journal ∧
      Interleaves (lines.filterMap chat.reply?) (run.lines.map chat.frame) all.written := by
  let greeting := Dispatch.run none session ready.settings.joinMessage []
  obtain ⟨htalk, hjournal, hwritten⟩ := ready.answerAll_attending chat greeting.session lines
  rw [Dispatch.run_none_eq]
  refine ⟨htalk, congrArg (greeting.journal ++ ·) hjournal, ?_⟩
  rw [List.map_append, ← List.nil_append (lines.filterMap chat.reply?)]
  exact .join (.append [] _) hwritten

/-- On the console nothing stands between the lines said. -/
theorem enter_answerAll_console (session : Session) (lines : List String) :
    let run := Dispatch.run none session ready.settings.joinMessage (lines.map Console.message)
    let all := (ready.enter .console session).andThen (ready.answerAll · lines)
    all.talk = .attending .console run.session ∧ all.journal = run.journal ∧
      all.written = run.lines.map Console.print := by
  obtain ⟨htalk, hjournal, hwritten⟩ := ready.enter_answerAll .console session lines
  rw [Chat.filterMap_message?_console] at htalk hjournal hwritten
  rw [Chat.filterMap_reply?_console] at hwritten
  exact ⟨htalk, hjournal, hwritten.eq_of_nil_left⟩

/-- In a channel the answers to pings stand between the lines said. -/
theorem enter_answerAll_channel (name : String) (session : Session) (lines : List String) :
    let run := Dispatch.run none session ready.settings.joinMessage (Irc.messages name lines)
    let all := (ready.enter (.channel name) session).andThen (ready.answerAll · lines)
    all.talk = .attending (.channel name) run.session ∧ all.journal = run.journal ∧
      Interleaves (Irc.pongs lines) (run.lines.map (Irc.frame name)) all.written := by
  have h := ready.enter_answerAll (.channel name) session lines
  rwa [Chat.filterMap_message?_channel, Chat.filterMap_reply?_channel] at h

/-- Before the join is confirmed only pings are answered, and the line that confirms it brings the
program into the channel. -/
theorem answer_joining (account : Irc.Account) (line : String) :
    ready.answer (.joining account) line =
      if Irc.Confirms line then ready.enter (.channel account.channel) ready.joined
      else ⟨.joining account, (Irc.pong? line).toList, []⟩ := by
  rw [answer, Irc.awaitJoin_cons]
  by_cases hconfirms : Irc.Confirms line
  · simp only [if_pos hconfirms]
  · simp only [if_neg hconfirms, Irc.awaitJoin, List.append_nil]

/-- Waiting line by line answers what waiting for the join answers in all lines, and the lines after
the one that confirms it are for the channel. -/
theorem answerAll_joining (account : Irc.Account) (lines : List String) :
    ready.answerAll (.joining account) lines =
      let join := Irc.awaitJoin lines
      match join.rest with
      | none => ⟨.joining account, join.pongs, []⟩
      | some later =>
        let all := (ready.enter (.channel account.channel) ready.joined).andThen
          (ready.answerAll · later)
        { all with written := join.pongs ++ all.written } := by
  induction lines with
  | nil => rfl
  | cons line lines ih =>
    rw [answerAll, answer_joining, Irc.awaitJoin_cons]
    by_cases hconfirms : Irc.Confirms line
    · simp only [if_pos hconfirms, List.nil_append]
    · cases hrest : (Irc.awaitJoin lines).rest <;>
        simp [if_neg hconfirms, Answer.andThen, ih, hrest]

/-- Everything that the program does, from its start to the end of the input. -/
def talkThrough (ready : Ready) (input : Text.Lines) : Answer :=
  ready.start.andThen (ready.answerAll · input.lines)

/-- On the console, the program that answers each piece of the input before it reads the next comes
to what it comes to on the whole input: it prints the same lines, and the same happens. -/
theorem talkThrough_console (h : ready.line = .console) (bytes : ByteArray) :
    let input := Text.Lines.ofPieces (Text.pieces bytes.toList)
    let all := ready.talkThrough input
    ready.runConsole bytes = ⟨all.written, none, all.talk.failure? input.broken⟩ ∧
      all.journal = (Dispatch.run none ready.session ready.settings.joinMessage
        (input.lines.map Console.message)).journal := by
  intro input all
  have hinput : Text.Lines.ofBytes bytes = input := (Text.Lines.ofPieces_pieces bytes.toList).symm
  have hall : all = (ready.enter .console ready.session).andThen
      (ready.answerAll · input.lines) := by
    simp only [all, talkThrough, start, h]
  obtain ⟨htalk, hjournal, hwritten⟩ := ready.enter_answerAll_console ready.session input.lines
  rw [← hall] at htalk hjournal hwritten
  refine ⟨?_, hjournal⟩
  rw [runConsole, hinput, htalk, hwritten, failure?_run_none]
  rfl

/-- On a channel, the client that answers each piece of what the server sends before it reads the
next writes its login, the answers to pings and the lines said, as the program does on all that the
server sends. Only the order of answers and lines differs: each answer is written where its ping
comes. -/
theorem talkThrough_channel {account : Irc.Account} (h : ready.line = .irc account)
    (bytes : ByteArray) :
    let input := Text.Lines.ofPieces (Text.pieces bytes.toList)
    let all := ready.talkThrough input
    let talk := Irc.converse account input
    ∃ frames wire,
      ready.runIrc account (some bytes) =
        ⟨[], some (talk.login ++ talk.pongs ++ frames), all.talk.failure? input.broken⟩ ∧
      all.written = talk.login ++ wire ∧ Interleaves talk.pongs frames wire ∧
      all.journal = match talk.messages with
        | .ok messages =>
          (Dispatch.run none ready.joined ready.settings.joinMessage messages).journal
        | .error _ => [] := by
  intro input all
  have hinput : Text.Lines.ofBytes bytes = input := (Text.Lines.ofPieces_pieces bytes.toList).symm
  have hall : all = Answer.andThen ⟨.joining account, account.login, []⟩
      (ready.answerAll · input.lines) := by
    simp only [all, talkThrough, start, h]
  cases hrest : (Irc.awaitJoin input.lines).rest with
  | none =>
    have hwaited : all = ⟨.joining account, account.login ++ (Irc.awaitJoin input.lines).pongs,
        []⟩ := by
      simp [hall, Answer.andThen, answerAll_joining, hrest]
    have htalk : Irc.converse account input = ⟨account.login, (Irc.awaitJoin input.lines).pongs,
        .error (if input.broken then .unreadable else .closedBeforeJoin)⟩ := by
      simp only [Irc.converse, hrest]
    refine ⟨[], (Irc.awaitJoin input.lines).pongs, ?_, ?_, ?_, ?_⟩
    · simp only [runIrc, hinput, htalk, hwaited, List.append_nil]
      rfl
    · rw [hwaited, htalk]
    · rw [htalk]
      simpa using Interleaves.append (Irc.awaitJoin input.lines).pongs []
    · rw [hwaited, htalk]
  | some later =>
    let run := Dispatch.run none ready.joined ready.settings.joinMessage
      (Irc.messages account.channel later)
    let inChannel := (ready.enter (.channel account.channel) ready.joined).andThen
      (ready.answerAll · later)
    have hjoined : all = ⟨inChannel.talk,
        account.login ++ ((Irc.awaitJoin input.lines).pongs ++ inChannel.written),
        inChannel.journal⟩ := by
      simp [hall, Answer.andThen, answerAll_joining, hrest, inChannel]
    have htalk : Irc.converse account input = ⟨account.login,
        (Irc.awaitJoin input.lines).pongs ++ Irc.pongs later,
        .ok (Irc.messages account.channel later)⟩ := by
      simp only [Irc.converse, hrest]
    obtain ⟨htalking, hjournal, hwritten⟩ :
        inChannel.talk = .attending (.channel account.channel) run.session ∧ _ ∧ _ :=
      ready.enter_answerAll_channel account.channel ready.joined later
    refine ⟨run.lines.map (Irc.frame account.channel),
      (Irc.awaitJoin input.lines).pongs ++ inChannel.written, ?_, ?_, ?_, ?_⟩
    · simp only [runIrc, hinput, htalk, hjoined, htalking, failure?_run_none]
      rfl
    · rw [hjoined, htalk]
    · rw [htalk]
      exact hwritten.append_left (Irc.awaitJoin input.lines).pongs
    · rw [hjoined, htalk]
      exact hjournal

end Ready

end Program

end CommandBot
