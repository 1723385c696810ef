import CommandBot.Proofs.Hooks.Trace
import CommandBot.Proofs.Run.Store

namespace CommandBot

/-- Entering and leaving a command is no event of the hook machine. -/
theorem Outcome.within_hookTrace (command : String) (outcome : Outcome) :
    (outcome.within command).journal.hookTrace = outcome.journal.hookTrace := by
  simp [Outcome.within, Journal.hookTrace, Event.isHook]

namespace Hooks

variable {hooks armed : Hooks} {opened : List String} {user : String}

/-- The hooks that are not open are armed, and no others. It holds at every moment of a run, because
a hook is disarmed when it starts and armed again when it is done, also where something inside it
failed. -/
def ArmedBut (hooks : Hooks) (opened : List String) (armed : Hooks) : Prop :=
  ∀ key, armed.get? key = if key ∈ opened then none else hooks.get? key

theorem armedBut_nil (hooks : Hooks) : hooks.ArmedBut [] hooks := by
  intro key
  simp

/-- Starting a hook opens it and disarms it at once, so it cannot start inside itself. -/
theorem ArmedBut.erase (h : hooks.ArmedBut opened armed) (key : String) :
    hooks.ArmedBut (key :: opened) (armed.erase key) := by
  intro other
  rw [Table.get?_erase, h other]
  by_cases hkey : key = other
  · simp [hkey]
  · have hne : other ≠ key := fun hother => hkey hother.symm
    simp [hkey, hne]

theorem ArmedBut.called_iff (h : hooks.ArmedBut opened armed) (store : Store)
    (key value : String) :
    hooks.Called opened key (store.get? key) value ↔ (armed.fired? store key value).isSome := by
  have harmed := h key
  unfold Called fired? Store.changes Table.contains
  by_cases hopened : key ∈ opened
  · simp [hopened, harmed]
  · by_cases hsame : store.get? key = some value
    · simp [hopened, hsame]
    · simp [hopened, hsame, harmed]

/-- A store that starts a hook is followed at once by the start, for the same user and on the words
of the value, and by the end whatever comes between. -/
theorem around_hookTrace (key : String) (previous : Option String) (value : String)
    (outcome : Outcome) :
    (around user key previous value outcome).journal.hookTrace =
      .stored key previous value :: .hookStarted key user (Text.words value) ::
        outcome.journal.hookTrace ++ [.hookEnded key] := by
  unfold around Outcome.settle
  split
  · simp [Journal.hookTrace, List.filter_cons, Event.isHook]
  · simp [Journal.hookTrace, List.filter_cons, Event.isHook]

/-- A run that starts with these hooks open leaves them open, and is one of the machine's. -/
def Follows (hooks : Hooks) (user : String) (opened : List String) (world : World)
    (journal : Journal) (after : World) : Prop :=
  Moment.Runs hooks user ⟨opened, none, world.store⟩ journal.hookTrace ⟨opened, none, after.store⟩

/-- What neither stores anything nor runs a hook leaves the machine where it is. -/
theorem follows_of_hookTrace_eq_nil {world after : World} {journal : Journal}
    (hjournal : journal.hookTrace = []) (hstore : after.store = world.store) :
    hooks.Follows user opened world journal after := by
  unfold Follows
  rw [hjournal, hstore]
  exact .done _

/-- Following the machine composes, so it need only be shown of leaves. -/
theorem follows_composes (hooks : Hooks) (user : String) (opened : List String) :
    Effect.Composes fun _ => hooks.Follows user opened := by
  apply Effect.composes_of_marks
  · intro world
    exact follows_of_hookTrace_eq_nil rfl rfl
  · intro world event hnote
    refine follows_of_hookTrace_eq_nil ?_ rfl
    cases event with
    | failed error => rfl
    | reported report => rfl
    | _ => cases hnote
  · intro world command
    exact follows_of_hookTrace_eq_nil rfl rfl
  · intro world
    exact follows_of_hookTrace_eq_nil rfl rfl
  · intro before between after journal later hfirst hlater
    unfold Follows
    rw [Journal.hookTrace_append]
    exact hfirst.append hlater

/-- Of the leaves only a state command does anything to the machine, and it does what storing a
value does. -/
theorem leaves_follow {onStore : OnStore} (leaves : List Body)
    (hstore : ∀ key args world,
      (onStore key args world).Has (fun _ => hooks.Follows user opened) 0 world) :
    Effect.OfLeaves (fun _ => hooks.Follows user opened) onStore leaves := by
  apply (follows_composes hooks user opened).ofLeaves
  · intro key _ args world
    exact hstore key args world
  · intro path _ content world files _
    exact follows_of_hookTrace_eq_nil rfl rfl
  · intro spec _ world _
    exact follows_of_hookTrace_eq_nil rfl rfl

/-- Storing a value follows the machine. The induction is on the armed hooks, of which each start
leaves fewer. -/
theorem onStore_follows (user : String) (armed : Hooks) (opened : List String)
    (harmed : hooks.ArmedBut opened armed) (key : String) (args : List String) (world : World) :
    (armed.onStore user key args world).Has (fun _ => hooks.Follows user opened) 0 world := by
  induction armed using disarm_induction generalizing opened key args world with
  | h armed ih =>
    have hcalled := harmed.called_iff world.store key (Text.unwords args)
    rw [onStore_eq]
    dsimp only
    split
    · rename_i hfired
      rw [hfired] at hcalled
      have hnot : ¬ hooks.Called opened key (world.store.get? key) (Text.unwords args) := by
        simpa using hcalled
      exact .single (.kept hnot)
    · rename_i step hfired
      obtain ⟨_, hget⟩ := fired?_eq_some hfired
      rw [hfired] at hcalled
      have hstarts : hooks.Called opened key (world.store.get? key) (Text.unwords args) := by
        simpa using hcalled
      have hinner := ih key step hget (key :: opened) (harmed.erase key)
      have hrun := Step.run_has (follows_composes hooks user (key :: opened)) step
        (leaves_follow step.leaves hinner) (Text.words (Text.unwords args))
        (world.set key (Text.unwords args))
      change Moment.Runs hooks user _ (Journal.hookTrace _) _
      rw [around_hookTrace, around_world]
      exact Moment.Runs.hook hstarts hrun

end Hooks

/-- The discipline of hooks. Whatever the hooks are and whichever of them set each other off, what a
command stores and the hooks that this starts make a disciplined trace, and the values in it are
those of the store. Whichever hooks are open, a state command never fails: it says what the hook
that it starts says, or nothing, and that hook runs for the same user on the words of the value. -/
theorem Command.hooks_disciplined (hooks : Hooks) (user : String) :
    (∀ (command : Command) (args : List String) (world : World),
      let outcome := command.run (hooks.onStore user) args world
      outcome.journal.hookTrace.Disciplined hooks user ∧
        outcome.journal.hookTrace.replay? world.store = some outcome.world.store) ∧
    ∀ (name classAlias key : String) (args : List String) (world : World),
      let value := Text.unwords args
      let stored := Event.stored key (world.store.get? key) value
      let outcome := (Command.mk name classAlias (.state key)).run (hooks.onStore user) args world
      match hooks.fired? world.store key value with
      | none => outcome.result = .ok [] ∧ outcome.journal.hookTrace = [stored]
      | some step =>
        let hooked := step.run (Hooks.onStore (hooks.erase key) user) (Text.words value)
          (world.set key value)
        outcome.result = .ok hooked.lines ∧ outcome.journal.hookTrace =
          stored :: .hookStarted key user (Text.words value) :: hooked.journal.hookTrace ++
            [.hookEnded key] := by
  constructor
  · intro command args world
    have hleaves := Hooks.leaves_follow command.leaves
      (Hooks.onStore_follows user hooks [] hooks.armedBut_nil)
    have hruns := Command.run_has (Hooks.follows_composes hooks user []) command hleaves args world
    exact ⟨hruns.disciplined, hruns.replay⟩
  · intro name classAlias key args world
    dsimp only
    rw [Command.run, Body.run, Hooks.onStore_eq]
    dsimp only
    cases hooks.fired? world.store key (Text.unwords args) with
    | none => exact ⟨rfl, rfl⟩
    | some step =>
      refine ⟨Hooks.around_result _ _ _ _, ?_⟩
      rw [Outcome.within_hookTrace, Hooks.around_hookTrace]

-- Two hooks that store each other's keys: each starts once, the second inside the first.
example :
    let hooks : Hooks := .ofList [("a", .inline ⟨"", "StateCommand", .state "b"⟩),
      ("b", .inline ⟨"", "StateCommand", .state "a"⟩)]
    let command : Command := ⟨"hit", "StateCommand", .state "a"⟩
    (command.run (hooks.onStore "viewer") ["x"] ⟨.empty, [], .empty⟩).journal.hookTrace =
      [.stored "a" none "x", .hookStarted "a" "viewer" ["x"],
        .stored "b" none "x", .hookStarted "b" "viewer" ["x"],
        .stored "a" (some "x") "x", .hookEnded "b", .hookEnded "a"] := by
  cbv

end CommandBot
