import CommandBot.Proofs.Run.Canonical
import CommandBot.Proofs.Session.Script

namespace CommandBot

/-- The bot with canonical class names in its commands and its hooks. -/
def Bot.canonical (bot : Bot) : Bot :=
  { bot with commands := bot.commands.map Command.canonical, hooks := bot.hooks.canonical }

/-- The session with canonical class names in its bot and its listeners. -/
def Session.canonical (session : Session) : Session :=
  { session with bot := session.bot.canonical, world := session.world.canonical }

/-- The reply with canonical class names in its session and its journal. -/
def Reply.canonical (reply : Reply) : Reply :=
  { reply with session := reply.session.canonical, journal := reply.journal.canonical }

/-- The transcript with canonical class names in its session and its journal. -/
def Transcript.canonical (transcript : Transcript) : Transcript :=
  { transcript with
    session := transcript.session.canonical
    journal := transcript.journal.canonical }

namespace Session

/-- Access goes by names of commands, so the same messages are dropped. -/
theorem drops_canonical (session : Session) (user text : String) :
    session.canonical.drops user text = session.drops user text := rfl

theorem invoke_canonical (session : Session) (user name : String) (args : List String) :
    session.canonical.invoke user name args = (session.invoke user name args).canonical := by
  have hcommand : session.canonical.bot.commands.get? name =
      (session.bot.commands.get? name).map Command.canonical :=
    Table.get?_map _ _ _
  unfold invoke
  rw [hcommand]
  cases session.bot.commands.get? name with
  | none => rfl
  | some command =>
    exact command.run_canonical (session.bot.hooks.onStore_canonical user) args session.world

/-! ### Listeners -/

theorem fireAll_canonical (hooks : Hooks) (user text : String) (listeners : List Listener)
    (world : World) :
    fireAll hooks.canonical user text (listeners.map Listener.canonical) world.canonical =
      (fireAll hooks user text listeners world).canonical := by
  induction listeners generalizing world with
  | nil => rfl
  | cons listener listeners ih =>
    have hrun := listener.step.run_canonical (hooks.onStore_canonical user) (Text.words text) world
    rw [List.map_cons, fireAll, fireAll, Listener.canonical_step, Listener.canonical_trigger, hrun,
      Outcome.settle_canonical, Outcome.canonical_world, ih]
    unfold Outcome.canonical
    rw [Journal.canonical_append]
    rfl

/-- The same listeners hear a message and the same ones are kept, because only triggers, users and
places are looked at. -/
theorem notify_canonical (hooks : Hooks) (user text : String) (world : World) :
    notify hooks.canonical user text world.canonical =
      (notify hooks user text world).canonical := by
  let heard := world.listeners.filter (·.hears user text)
  let kept := world.listeners.filter fun listener =>
    !(listener.temporary && heard.any (·.place == listener.place))
  have hheard : world.canonical.listeners.filter (·.hears user text) =
      heard.map Listener.canonical := by
    rw [World.canonical_listeners, List.filter_map]
    congr 2
    funext listener
    exact listener.hears_canonical user text
  have hkept : (world.canonical.listeners.filter fun listener =>
        !(listener.temporary &&
          (heard.map Listener.canonical).any (·.place == listener.place))) =
      kept.map Listener.canonical := by
    rw [World.canonical_listeners, List.filter_map]
    congr 2
    funext listener
    simp [Function.comp_def]
  unfold notify
  dsimp only
  rw [hheard, hkept]
  exact fireAll_canonical hooks user text heard { world with listeners := kept }

/-! ### Messages -/

theorem dispatch_canonical (session : Session) (user text : String) :
    session.canonical.dispatch user text = (session.dispatch user text).canonical := by
  have hread : session.canonical.read? text = session.read? text := rfl
  unfold dispatch
  rw [hread]
  cases session.read? text with
  | none => rfl
  | some invocation =>
    dsimp only
    rw [invoke_canonical, Outcome.settle_canonical]

/-- A message comes to the same lines, and to the respelled session. -/
theorem handle_canonical (session : Session) (user text : String) :
    session.canonical.handle user text = (session.handle user text).canonical := by
  have hhooks : session.canonical.bot.hooks = session.bot.hooks.canonical := rfl
  unfold handle
  rw [drops_canonical]
  split
  · rfl
  · dsimp only
    rw [dispatch_canonical, hhooks, Outcome.canonical_world, notify_canonical]
    unfold Reply.canonical
    rw [Journal.canonical_append]
    rfl

/-- Canonical class names make no difference to a script, input by input. -/
theorem play_canonical (session : Session) (script : List Input) :
    session.canonical.play script = (session.play script).canonical := by
  induction script generalizing session with
  | nil => rfl
  | cons input script ih =>
    cases input with
    | message user text =>
      rw [play, play, handle_canonical]
      dsimp only [Reply.canonical]
      rw [ih]
      unfold Transcript.canonical
      rw [Journal.canonical_append]
    | approval user =>
      have happrove : session.canonical.approve user = (session.approve user).canonical := rfl
      rw [play, play, happrove, ih]
      rfl

end Session

end CommandBot
