import CommandBot.Session

namespace CommandBot

/-- Something that comes to a session from outside. -/
inductive Input where
  /-- A user says a text in chat. -/
  | message (user text : String)
  /-- A user is approved. -/
  | approval (user : String)

/-- What a script comes to: the session at its end, the lines said to each message, and what
happened. -/
structure Transcript where
  session : Session
  replies : List (List String)
  journal : Journal

namespace Session

/-- Plays a script, one input after the other. -/
def play (session : Session) : List Input → Transcript
  | [] => ⟨session, [], []⟩
  | .message user text :: script =>
    let reply := session.handle user text
    let later := reply.session.play script
    ⟨later.session, reply.lines :: later.replies, reply.journal ++ later.journal⟩
  | .approval user :: script =>
    let later := (session.approve user).play script
    { later with journal := .approved user :: later.journal }

/-- A message that is dropped changes nothing and is not answered. -/
theorem handle_of_drops {session : Session} {user text : String}
    (hdrops : session.drops user text = true) : session.handle user text = ⟨session, [], []⟩ := by
  rw [handle, if_pos hdrops]

/-- What a session is a session of stays as it was loaded: a message changes the world only. -/
theorem handle_bot (session : Session) (user text : String) :
    (session.handle user text).session.bot = session.bot := by
  unfold handle
  split <;> rfl

theorem handle_approved (session : Session) (user text : String) :
    (session.handle user text).session.approved = session.approved := by
  unfold handle
  split <;> rfl

theorem play_bot (session : Session) (script : List Input) :
    (session.play script).session.bot = session.bot := by
  induction script generalizing session with
  | nil => rfl
  | cons input script ih =>
    cases input with
    | message user text => exact (ih _).trans (session.handle_bot user text)
    | approval user => exact ih _

end Session

end CommandBot
