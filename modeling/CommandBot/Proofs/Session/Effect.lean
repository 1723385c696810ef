import CommandBot.Proofs.Run.Store
import CommandBot.Session

namespace CommandBot

/-- All that a bot may be asked to run for a user has an effect: its commands and what its listeners
run. -/
structure Bot.Has (effect : Effect) (depth : Nat) (user : String) (bot : Bot) : Prop where
  command : ∀ name command, bot.commands.get? name = some command → ∀ args world,
    (command.run (bot.hooks.onStore user) args world).Has effect depth world
  listener : ∀ spec ∈ bot.listeners, ∀ args world,
    (spec.step.run (bot.hooks.onStore user) args world).Has effect depth world

/-- All leaves that a bot may be asked to run are allowed. -/
structure Bot.Confined (allowed : Body → Prop) (bot : Bot) : Prop where
  command : ∀ name command, bot.commands.get? name = some command →
    ∀ leaf ∈ command.leaves, allowed leaf
  hook : ∀ key step, bot.hooks.get? key = some step → ∀ leaf ∈ step.leaves, allowed leaf
  listener : ∀ spec ∈ bot.listeners, ∀ leaf ∈ spec.step.leaves, allowed leaf

theorem Bot.Confined.imp {allowed other : Body → Prop} {bot : Bot} (h : bot.Confined allowed)
    (himp : ∀ leaf, allowed leaf → other leaf) : bot.Confined other where
  command name command hget leaf hleaf := himp leaf (h.command name command hget leaf hleaf)
  hook key step hget leaf hleaf := himp leaf (h.hook key step hget leaf hleaf)
  listener spec hspec leaf hleaf := himp leaf (h.listener spec hspec leaf hleaf)

theorem Bot.Confined.withMark {allowed : Body → Prop} {bot : Bot} (h : bot.Confined allowed)
    (mark : String) : (bot.withMark mark).Confined allowed where
  command := h.command
  hook := h.hook
  listener := h.listener

/-- A bot whose leaves are all allowed has the effects of allowed leaves. -/
theorem Bot.Confined.has {effect : World → Journal → World → Prop} {user : String}
    {allowed : Body → Prop} {bot : Bot} (h : bot.Confined allowed)
    (hcomposes : Effect.Composes fun _ => effect) (hallows : Effect.Allows effect user allowed) :
    bot.Has (fun _ => effect) 0 user := by
  have hclosed : bot.hooks.Closed allowed := fun key step _ hget => h.hook key step hget
  constructor
  · intro name command hget
    exact Command.run_has_of_allowed hcomposes hallows hclosed (h.command name command hget)
  · intro spec hspec
    exact Step.run_has_of_allowed hcomposes hallows hclosed (h.listener spec hspec)

/-- It is an effect to detach some listeners. -/
def Effect.Detaches (effect : Effect) : Prop :=
  ∀ (world : World) (kept : List Listener), kept ⊆ world.listeners →
    effect 0 world [] { world with listeners := kept }

namespace Session

variable {effect : Effect} {depth : Nat} {user : String}

/-- A command that is called by its name has the effect of the bot. If there is none of that name,
nothing happens. -/
theorem invoke_has {session : Session} (hcomposes : effect.Composes)
    (hbot : session.bot.Has effect depth user) (name : String) (args : List String) :
    (session.invoke user name args).Has effect depth session.world := by
  unfold invoke
  split
  · rename_i command hget
    exact hbot.command name command hget args session.world
  · exact Outcome.done_has hcomposes []

theorem dispatch_has {session : Session} (hcomposes : effect.Composes)
    (hbot : session.bot.Has effect depth user) (text : String) :
    (session.dispatch user text).Has effect depth session.world := by
  unfold dispatch
  split
  · exact (invoke_has hcomposes hbot _ _).settle hcomposes _
  · exact Outcome.done_has hcomposes []

theorem fireAll_has {bot : Bot} {heard : List Listener} (hcomposes : effect.Composes)
    (hbot : bot.Has effect depth user) (text : String) (hheard : heard ⊆ bot.listeners)
    (world : World) : (fireAll bot.hooks user text heard world).Has effect depth world := by
  induction heard generalizing world with
  | nil => exact Outcome.done_has hcomposes []
  | cons spec heard ih =>
    have hrun := hbot.listener spec (hheard List.mem_cons_self) (Text.words text) world
    have hfired := hrun.settle hcomposes (.listener spec.trigger)
    have hlater := ih fun other hother => hheard (List.mem_cons_of_mem _ hother)
    exact hcomposes.append depth hfired (hlater _)

/-- Detaching the temporary listeners comes first, so it has to be an effect as well. -/
theorem notify_has {bot : Bot} {world : World} (hcomposes : effect.Composes)
    (hdetaches : effect.Detaches) (hbot : bot.Has effect depth user) (text : String)
    (hlisteners : world.listeners ⊆ bot.listeners) :
    (notify bot.hooks user text world).Has effect depth world := by
  have hheard : world.listeners.filter (·.hears user text) ⊆ bot.listeners := by
    intro spec hspec
    exact hlisteners (List.mem_filter.1 hspec).1
  have hkept := hdetaches world
    (world.listeners.filter fun listener => !(listener.temporary &&
      (world.listeners.filter (·.hears user text)).any (·.place == listener.place)))
    fun spec hspec => (List.mem_filter.1 hspec).1
  have hfired := fireAll_has hcomposes hbot text hheard
  exact hcomposes.append depth (hcomposes.mono (Nat.zero_le _) hkept) (hfired _)

/-- Handling a message has an effect that its command and its listeners have. The listeners that
hear it are those attached once the command has run. -/
theorem handle_has {session : Session} (hcomposes : effect.Composes) (hdetaches : effect.Detaches)
    (hbot : session.bot.Has effect depth user) (text : String)
    (hlisteners : (session.dispatch user text).world.listeners ⊆ session.bot.listeners) :
    effect depth session.world (session.handle user text).journal
      (session.handle user text).session.world := by
  unfold handle
  split
  · exact Outcome.done_has hcomposes []
  · have hdispatched := dispatch_has hcomposes hbot text
    have hnotified := notify_has hcomposes hdetaches hbot (Text.without '\r' text) hlisteners
    exact hcomposes.append depth hdispatched hnotified

end Session

end CommandBot
