import CommandBot.Proofs.Run.Plan
import CommandBot.Proofs.Run.Store

namespace CommandBot

/-- Why a call fails in a world, if it does: an echo has no target, a file cannot be written, or an
option selects no branch. Every other call succeeds. It depends on the call and on the files, never
on the hooks or the user. -/
def Call.failure? (world : World) : Call → Option Error
  | .leaf ⟨name, _, .echo target⟩ _ =>
    if target.isEmpty then some (.unknownTarget name) else none
  | .leaf ⟨_, _, .file path⟩ args =>
    match world.files.write path (Text.unwords args).toUTF8 with
    | .ok _ => none
    | .error cause => some (.unwritable path cause)
  | .unselected option word => some (.noMatchingOption option word)
  | _ => none

/-- Storing a value never fails. -/
def OnStore.Settles (onStore : OnStore) : Prop :=
  ∀ key args world, ∃ lines, (onStore key args world).result = .ok lines

/-- A hook that fails is told of and goes no further, so the command that stored the value never
notices. -/
theorem Hooks.onStore_settles (armed : Hooks) (user : String) :
    OnStore.Settles (armed.onStore user) := by
  intro key args world
  rw [onStore_eq]
  dsimp only
  split
  · exact ⟨_, rfl⟩
  · exact ⟨_, around_result _ _ _ _⟩

section Calls

variable {onStore : OnStore} {call : Call} {world : World} {error : Error}

/-- No call fails in a way that stops the bot. -/
theorem Call.isFatal_failure? (h : call.failure? world = some error) : error.isFatal = false := by
  unfold failure? at h
  split at h
  · split at h
    · cases h
      rfl
    · cases h
  · split at h
    · cases h
    · cases h
      rfl
  · cases h
    rfl
  · cases h

/-- A call that fails leaves the world alone, and that it fails is all that happens. -/
theorem Call.run_of_failure? (onStore : OnStore) (h : call.failure? world = some error) :
    (call.run onStore world).result = .error error ∧ (call.run onStore world).world = world ∧
      (call.run onStore world).journal.effects = [.failed error] := by
  unfold failure? at h
  split at h
  · rename_i name classAlias target args
    split at h
    · rename_i hempty
      cases h
      simp only [run, Command.run, Body.run, runEcho, hempty, if_true, Outcome.within_effects]
      exact ⟨rfl, rfl, rfl⟩
    · cases h
  · rename_i name classAlias path args
    split at h
    · cases h
    · rename_i cause hwrite
      cases h
      simp only [run, Command.run, Body.run, runFile, hwrite, Outcome.within_effects]
      exact ⟨rfl, rfl, rfl⟩
  · cases h
    exact ⟨rfl, rfl, rfl⟩
  · cases h

/-- A call that has no reason to fail succeeds, whatever the hooks make of a value that it stores.
-/
theorem Call.run_of_failure?_eq_none (hstore : OnStore.Settles onStore) (hleaf : call.IsOfLeaf)
    (h : call.failure? world = none) : ∃ lines, (call.run onStore world).result = .ok lines := by
  cases call with
  | unselected option word => cases h
  | leaf command args =>
    obtain ⟨name, classAlias, body⟩ := command
    simp only [run, Command.run, Outcome.within]
    cases body with
    | echo target =>
      simp only [failure?] at h
      split at h
      · cases h
      · rename_i hempty
        simp only [Body.run, runEcho, hempty]
        exact ⟨_, rfl⟩
    | file path =>
      simp only [failure?] at h
      split at h
      · rename_i files hwrite
        simp only [Body.run, runFile, hwrite]
        exact ⟨_, rfl⟩
      · cases h
    | state key => exact hstore key args world
    | info text => exact ⟨_, rfl⟩
    | format template => exact ⟨_, rfl⟩
    | listener spec =>
      simp only [Body.run, runListener]
      split
      · exact ⟨_, rfl⟩
      · exact ⟨_, rfl⟩
    | shorthand | sequence | option => cases hleaf

end Calls

/-- A command that fails has come to one call, and that call has failed before anything else
happened. For a sequence stops every failure, and storing a value stops those of its hook. -/
theorem Command.run_eq_error {onStore : OnStore} (hstore : OnStore.Settles onStore)
    {command : Command} {args : List String} {world : World} {error : Error}
    (h : (command.run onStore args world).result = .error error) :
    (∃ call, command.plan args = [call] ∧ call.failure? world = some error) ∧
      (command.run onStore args world).world = world ∧
      (command.run onStore args world).journal.effects = [.failed error] := by
  have hperforms : (command.run onStore args world).Performs onStore (command.plan args)
      (command.meetsSequence args) world := Command.run_performs command args world
  have hmeets : command.meetsSequence args = false := by
    cases hmeets : command.meetsSequence args with
    | false => rfl
    | true =>
      obtain ⟨lines, hok⟩ := hperforms.gathered hmeets
      rw [hok] at h
      cases h
  obtain ⟨call, hplan, hresult⟩ := hperforms.routed hmeets
  have hleaf : call.IsOfLeaf := by
    apply command.plan_ofLeaves args
    rw [hplan]
    exact List.mem_singleton_self call
  have hfinal := hperforms.final
  have heffects := hperforms.effects
  rw [hplan, Call.runAll_singleton] at hfinal heffects
  rw [hresult] at h
  cases hfailure : call.failure? world with
  | none =>
    obtain ⟨lines, hok⟩ := Call.run_of_failure?_eq_none hstore hleaf hfailure
    rw [hok] at h
    cases h
  | some cause =>
    obtain ⟨hcause, hworld, hfailed⟩ := Call.run_of_failure? onStore hfailure
    rw [hcause] at h
    cases h
    exact ⟨⟨call, hplan, hfailure⟩, hfinal.trans hworld, heffects.trans hfailed⟩

end CommandBot
