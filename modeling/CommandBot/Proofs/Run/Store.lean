import CommandBot.Proofs.Run.Effect

namespace CommandBot

namespace Hooks

/-- The step that storing a value starts: the armed hook of the key, if the value changes. -/
def fired? (armed : Hooks) (store : Store) (key value : String) : Option Step :=
  if store.changes key value then armed.get? key else none

/-- A value is stored and a hook has run for it: its start and end are noted around it, and its
failure stops here. -/
def around (user key : String) (previous : Option String) (value : String) (outcome : Outcome) :
    Outcome :=
  Outcome.settle (.hook key) { outcome with
    journal := .stored key previous value :: .hookStarted key user (Text.words value) ::
      outcome.journal ++ [.hookEnded key] }

theorem around_world {user : String} (key : String) (previous : Option String) (value : String)
    (outcome : Outcome) : (around user key previous value outcome).world = outcome.world := by
  unfold around Outcome.settle
  split
  · rfl
  · rfl

/-- A hook's failure stops here, so storing a value succeeds with the lines of the hook. -/
theorem around_result {user : String} (key : String) (previous : Option String) (value : String)
    (outcome : Outcome) :
    (around user key previous value outcome).result = .ok outcome.lines := by
  unfold around Outcome.settle Outcome.lines
  dsimp only
  split
  · rename_i lines hok
    simp [hok]
  · simp

/-- Storing a value, in one equation: either the value stands and that is all, or a hook runs with
its key disarmed. -/
theorem onStore_eq (armed : Hooks) (user key : String) (args : List String) (world : World) :
    armed.onStore user key args world =
      let value := Text.unwords args
      let previous := world.store.get? key
      match armed.fired? world.store key value with
      | none => ⟨.ok [], world.set key value, [.stored key previous value]⟩
      | some step =>
        around user key previous value
          (step.run (Hooks.onStore (armed.erase key) user) (Text.words value)
            (world.set key value)) := by
  rw [onStore]
  unfold fired?
  split
  · rename_i hget
    simp [hget]
  · rename_i step hget
    by_cases hchanges : Store.changes world.store key (Text.unwords args) = true
    · simp only [hchanges, if_true, hget]
      rfl
    · simp [hchanges]

/-- A hook starts only for a value that changes the store, and only if it is armed. -/
theorem fired?_eq_some {armed : Hooks} {store : Store} {key value : String} {step : Step}
    (h : armed.fired? store key value = some step) :
    store.changes key value = true ∧ armed.get? key = some step := by
  unfold fired? at h
  split at h
  · rename_i hchanges
    exact ⟨hchanges, h⟩
  · cases h

/-- A hook that starts is disarmed, so what holds of some armed hooks may be assumed of those left
when one of them is disarmed. -/
theorem disarm_induction {motive : Hooks → Prop}
    (h : ∀ armed, (∀ key step, armed.get? key = some step → motive (armed.erase key)) →
      motive armed) (armed : Hooks) : motive armed := by
  induction hsize : armed.size using Nat.strongRecOn generalizing armed with
  | _ size ih =>
    apply h
    intro key step hget
    have hsmaller := Table.size_erase_lt hget
    exact ih _ (hsize ▸ hsmaller) _ rfl

/-- What is armed after a hook is disarmed was armed before, under another key. -/
theorem get?_of_get?_erase {armed : Hooks} {key other : String} {step : Step}
    (h : (armed.erase key).get? other = some step) :
    key ≠ other ∧ armed.get? other = some step := by
  rw [Table.get?_erase] at h
  split at h
  · cases h
  · rename_i hne
    exact ⟨hne, h⟩

/-- Hooks that allowed leaves can set off have allowed leaves only. -/
def Closed (armed : Hooks) (allowed : Body → Prop) : Prop :=
  ∀ key step, allowed (.state key) → armed.get? key = some step →
    ∀ leaf ∈ step.leaves, allowed leaf

/-- Disarming a hook sets off nothing new. -/
theorem Closed.erase {armed : Hooks} {allowed : Body → Prop} (h : armed.Closed allowed)
    (key : String) : Closed (armed.erase key) allowed := by
  intro other step hother hget
  exact h other step hother (get?_of_get?_erase hget).2

end Hooks

/-- The allowed leaves have an effect, each by itself, and the marks of hooks are nothing to it. -/
structure Effect.Allows (effect : World → Journal → World → Prop) (user : String)
    (allowed : Body → Prop) : Prop where
  stored : ∀ key, allowed (.state key) → ∀ value (world : World),
    effect world [.stored key (world.store.get? key) value] (world.set key value)
  wrote : ∀ path, allowed (.file path) → ∀ (content : String) (world : World) files,
    world.files.write path content.toUTF8 = .ok files →
      effect world [.wrote path content] { world with files }
  attached : ∀ spec, allowed (.listener spec) → ∀ world : World,
    world.isAttached spec.place = false → effect world [.attached spec] (world.attach spec)
  started : ∀ key words world, effect world [.hookStarted key user words] world
  ended : ∀ key world, effect world [.hookEnded key] world

section Allowed

variable {effect : World → Journal → World → Prop} {user : String} {allowed : Body → Prop}

/-- With a hook's own effects supplied, allowed leaves have the effect in every world and with all
arguments. -/
theorem Effect.Allows.ofLeaves (hallows : Effect.Allows effect user allowed)
    (hcomposes : Effect.Composes fun _ => effect) {onStore : OnStore} {leaves : List Body}
    (hleaves : ∀ leaf ∈ leaves, allowed leaf)
    (hstore : ∀ key, allowed (.state key) → ∀ args world,
      (onStore key args world).Has (fun _ => effect) 0 world) :
    Effect.OfLeaves (fun _ => effect) onStore leaves := by
  apply hcomposes.ofLeaves
  · intro key hkey
    exact hstore key (hleaves _ hkey)
  · intro path hpath
    exact hallows.wrote path (hleaves _ hpath)
  · intro spec hspec
    exact hallows.attached spec (hleaves _ hspec)

/-- By induction on the armed hooks: storing an allowed value has the effects of allowed leaves. -/
theorem Hooks.onStore_has (hcomposes : Effect.Composes fun _ => effect)
    (hallows : Effect.Allows effect user allowed) {armed : Hooks} (hclosed : armed.Closed allowed)
    {key : String} (hkey : allowed (.state key)) (args : List String) (world : World) :
    (armed.onStore user key args world).Has (fun _ => effect) 0 world := by
  induction armed using disarm_induction generalizing key args world with
  | h armed ih =>
    have hstored := hallows.stored key hkey (Text.unwords args) world
    rw [onStore_eq]
    dsimp only
    split
    · exact hstored
    · rename_i step hfired
      obtain ⟨_, hget⟩ := fired?_eq_some hfired
      have hleaves := hallows.ofLeaves hcomposes (hclosed key step hkey hget) fun _ hother =>
        ih key step hget (hclosed.erase key) hother
      have hrun := Step.run_has hcomposes step hleaves (Text.words (Text.unwords args))
        (world.set key (Text.unwords args))
      have hstart := hallows.started key (Text.words (Text.unwords args))
        (world.set key (Text.unwords args))
      refine Outcome.Has.settle hcomposes _ ?_
      have hbefore := hcomposes.append 0 hstored hstart
      have hdone := hcomposes.append 0 hbefore hrun
      exact hcomposes.append 0 hdone (hallows.ended key _)

/-- A command has the effects of the leaves that are allowed to it, whatever hooks it sets off. -/
theorem Command.run_has_of_allowed (hcomposes : Effect.Composes fun _ => effect)
    (hallows : Effect.Allows effect user allowed) {armed : Hooks} (hclosed : armed.Closed allowed)
    {command : Command} (hleaves : ∀ leaf ∈ command.leaves, allowed leaf) (args : List String)
    (world : World) :
    (command.run (armed.onStore user) args world).Has (fun _ => effect) 0 world :=
  Command.run_has hcomposes command (hallows.ofLeaves hcomposes hleaves fun _ hkey =>
    Hooks.onStore_has hcomposes hallows hclosed hkey) args world

theorem Step.run_has_of_allowed (hcomposes : Effect.Composes fun _ => effect)
    (hallows : Effect.Allows effect user allowed) {armed : Hooks} (hclosed : armed.Closed allowed)
    {step : Step} (hleaves : ∀ leaf ∈ step.leaves, allowed leaf) (args : List String)
    (world : World) :
    (step.run (armed.onStore user) args world).Has (fun _ => effect) 0 world :=
  Step.run_has hcomposes step (hallows.ofLeaves hcomposes hleaves fun _ hkey =>
    Hooks.onStore_has hcomposes hallows hclosed hkey) args world

end Allowed

end CommandBot
