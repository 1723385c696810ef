import CommandBot.Proofs.Session.Script

namespace CommandBot

namespace Bot

/-- The bot with nothing restricted. -/
def opened (bot : Bot) : Bot := { bot with restricted := [] }

/-- A message is refused when it asks for a restricted command and its user is not among the
approved ones. Neither the store nor the listeners have a say. -/
def refuses (bot : Bot) (approved : List String) (user text : String) : Bool :=
  match Invocation.ofMessage? bot.mark (Text.without '\r' text) with
  | some invocation => bot.isRestricted invocation.name && !approved.contains user
  | none => false

/-- For each message of a script, whether it is refused when its turn comes. -/
def refusals (bot : Bot) (approved : List String) : List Input → List Bool
  | [] => []
  | .message user text :: script =>
    bot.refuses approved user text :: bot.refusals approved script
  | .approval user :: script => bot.refusals (user :: approved) script

/-- A script without the messages that are refused when their turn comes. -/
def admitted (bot : Bot) (approved : List String) : List Input → List Input
  | [] => []
  | .message user text :: script =>
    if bot.refuses approved user text then bot.admitted approved script
    else .message user text :: bot.admitted approved script
  | .approval user :: script => .approval user :: bot.admitted (user :: approved) script

end Bot

/-- The replies to all messages, made from those to the messages that are not refused: a refused
message gets no lines. -/
def silenced : List Bool → List (List String) → List (List String)
  | true :: refusals, replies => [] :: silenced refusals replies
  | false :: refusals, reply :: replies => reply :: silenced refusals replies
  | _, _ => []

namespace Session

/-- The session of a bot with nothing restricted, otherwise the same. -/
def opened (session : Session) : Session := { session with bot := session.bot.opened }

/-- A refused message leaves every part of the session alone: it is not even offered to the
listeners. -/
theorem handle_of_refuses {session : Session} {user text : String}
    (hrefused : session.bot.refuses session.approved user text = true) :
    session.handle user text = ⟨session, [], []⟩ :=
  handle_of_drops hrefused

theorem opened_drops (session : Session) (user text : String) :
    session.opened.drops user text = false := by
  unfold drops
  split
  · rfl
  · rfl

/-- A message that is not refused is handled as if nothing were restricted: neither its command nor
a listener reads the access lists. -/
theorem opened_handle {session : Session} {user text : String}
    (hadmitted : session.bot.refuses session.approved user text = false) :
    session.opened.handle user text =
      { session.handle user text with session := (session.handle user text).session.opened } := by
  have hdrops : ¬ session.drops user text = true := by
    have hkept : session.drops user text = false := hadmitted
    simp [hkept]
  have hopened : ¬ session.opened.drops user text = true := by
    simp [session.opened_drops user text]
  rw [handle, if_neg hopened, handle, if_neg hdrops]
  rfl

theorem refuses_of_mem_approved (bot : Bot) {approved : List String} {user : String} (text : String)
    (happroved : user ∈ approved) : bot.refuses approved user text = false := by
  unfold Bot.refuses
  split
  · simp [happroved]
  · rfl

/-- The filter on runs. The step case for a message is where the two runs part: a refused message is
missing from the filtered script, and any other is handled alike on both sides. -/
theorem play_opened (session : Session) (script : List Input) :
    (session.play script).session.opened =
        (session.opened.play (session.bot.admitted session.approved script)).session ∧
      (session.play script).replies =
        silenced (session.bot.refusals session.approved script)
          (session.opened.play (session.bot.admitted session.approved script)).replies ∧
      (session.play script).journal =
        (session.opened.play (session.bot.admitted session.approved script)).journal := by
  induction script generalizing session with
  | nil => exact ⟨rfl, rfl, rfl⟩
  | cons input script ih =>
    cases input with
    | approval user =>
      obtain ⟨hsession, hreplies, hjournal⟩ := ih (session.approve user)
      exact ⟨hsession, hreplies, congrArg (Event.approved user :: ·) hjournal⟩
    | message user text =>
      cases hrefused : session.bot.refuses session.approved user text with
      | true =>
        have hhandle := handle_of_refuses hrefused
        have hadmitted : session.bot.admitted session.approved (.message user text :: script) =
            session.bot.admitted session.approved script := by
          rw [Bot.admitted, if_pos hrefused]
        have hrefusals : session.bot.refusals session.approved (.message user text :: script) =
            true :: session.bot.refusals session.approved script := by
          rw [Bot.refusals, hrefused]
        obtain ⟨hsession, hreplies, hjournal⟩ := ih session
        rw [hadmitted, hrefusals]
        simp only [play, hhandle, silenced, List.nil_append]
        exact ⟨hsession, congrArg ([] :: ·) hreplies, hjournal⟩
      | false =>
        have hhandle := opened_handle hrefused
        have hadmitted : session.bot.admitted session.approved (.message user text :: script) =
            .message user text :: session.bot.admitted session.approved script := by
          rw [Bot.admitted, if_neg (by simp [hrefused])]
        have hrefusals : session.bot.refusals session.approved (.message user text :: script) =
            false :: session.bot.refusals session.approved script := by
          rw [Bot.refusals, hrefused]
        have hlater := ih (session.handle user text).session
        rw [handle_bot, handle_approved] at hlater
        obtain ⟨hsession, hreplies, hjournal⟩ := hlater
        rw [hadmitted, hrefusals]
        simp only [play, hhandle, silenced]
        exact ⟨hsession, congrArg (_ :: ·) hreplies, congrArg (_ ++ ·) hjournal⟩

/-- The restricted list is exactly a filter on inputs. A script comes to the same session, the same
lines and the same happenings, file writes among them, as its admitted part does with nothing
restricted; the refused messages get no lines. In particular a refused message does nothing
whatever, and to an approved user every command is as if it were unrestricted. -/
theorem play_eq_play_admitted (session : Session) (script : List Input) :
    let whole := session.play script
    let filtered := session.opened.play (session.bot.admitted session.approved script)
    (whole.session.opened = filtered.session ∧ whole.session.bot = session.bot ∧
        whole.replies =
          silenced (session.bot.refusals session.approved script) filtered.replies ∧
        whole.journal = filtered.journal) ∧
      (∀ user text, session.bot.refuses session.approved user text = true →
        session.handle user text = ⟨session, [], []⟩) ∧
      ∀ user text, user ∈ session.approved →
        session.opened.handle user text =
          { session.handle user text with
            session := (session.handle user text).session.opened } := by
  obtain ⟨hsession, hreplies, hjournal⟩ := session.play_opened script
  refine ⟨⟨hsession, session.play_bot script, hreplies, hjournal⟩, ?_, ?_⟩
  · intro user text hrefused
    exact handle_of_refuses hrefused
  · intro user text happroved
    exact opened_handle (refuses_of_mem_approved session.bot text happroved)

/-- A session in which only `mod` may run the command `hp`. -/
def guarded : Session where
  bot :=
    { commands := .ofList [("hp", ⟨"hp", "StateCommand", .state "hp"⟩)]
      restricted := ["hp"]
      unrestricted := []
      approved := ["mod"]
      store := .empty
      hooks := .empty
      mark := "!" }
  approved := ["mod"]
  world := ⟨.empty, [], .empty⟩

/-- The same words are refused to one user and heard from another. -/
theorem guarded_hp :
    guarded.bot.refuses ["mod"] "viewer" "!hp 10" = true ∧
      guarded.handle "viewer" "!hp 10" = ⟨guarded, [], []⟩ ∧
      (guarded.handle "mod" "!hp 10").session.world.store.get? "hp" = some "10" ∧
      guarded.opened.handle "mod" "!hp 10" =
        { guarded.handle "mod" "!hp 10" with
          session := (guarded.handle "mod" "!hp 10").session.opened } := by
  have hrefused : guarded.bot.refuses ["mod"] "viewer" "!hp 10" = true := by decide +kernel
  have hstored : (guarded.handle "mod" "!hp 10").session.world.store.get? "hp" = some "10" := by
    decide +kernel
  obtain ⟨_, hsilent, hequal⟩ := play_eq_play_admitted guarded []
  exact ⟨hrefused, hsilent "viewer" "!hp 10" hrefused, hstored,
    hequal "mod" "!hp 10" List.mem_cons_self⟩

end Session

end CommandBot
