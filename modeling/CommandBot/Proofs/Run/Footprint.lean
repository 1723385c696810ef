import CommandBot.Proofs.Files
import CommandBot.Proofs.Run.Store
import CommandBot.Proofs.Table
import Mathlib.Data.List.Perm.Subperm

namespace CommandBot

/-! ### The leaves that a run may come to -/

/-- The leaves that these leaves lead to: themselves, and with each value that is stored those of
the hook of its key. Hooks may set each other off in a cycle, so this is the least such set and not
a recursion. -/
inductive Hooks.Reaches (armed : Hooks) (leaves : List Body) : Body → Prop where
  | own {leaf : Body} (hleaf : leaf ∈ leaves) : armed.Reaches leaves leaf
  | hooked {key : String} {step : Step} {leaf : Body} (hstored : armed.Reaches leaves (.state key))
      (hget : armed.get? key = some step) (hleaf : leaf ∈ step.leaves) : armed.Reaches leaves leaf

/-- A hook leads to nothing more, once the leaf that stores its key is among the leaves. -/
theorem Hooks.reaches_closed (armed : Hooks) (leaves : List Body) :
    armed.Closed (armed.Reaches leaves) := by
  intro key step hstored hget leaf hleaf
  exact .hooked hstored hget hleaf

/-! ### What a run may change -/

/-- A store changes under these keys only, and no key is lost. -/
structure Store.Within (keys : String → Prop) (store after : Store) : Prop where
  frame : ∀ key, ¬ keys key → after.get? key = store.get? key
  kept : ∀ key, store.contains key = true → after.contains key = true

namespace Store

variable {keys : String → Prop} {store after : Store}

theorem within_refl (keys : String → Prop) (store : Store) : Store.Within keys store store where
  frame _ _ := rfl
  kept _ h := h

theorem Within.trans {last : Store} (h : Store.Within keys store after)
    (hlast : Store.Within keys after last) : Store.Within keys store last where
  frame key hkey := (hlast.frame key hkey).trans (h.frame key hkey)
  kept key hkey := hlast.kept key (h.kept key hkey)

theorem within_insert {key : String} (hkey : keys key) (value : String) :
    Store.Within keys store (store.insert key value) where
  frame other hother := by
    have hne : key ≠ other := by
      rintro rfl
      exact hother hkey
    rw [Table.get?_insert, if_neg hne]
  kept other hother := by
    unfold Table.contains at hother ⊢
    rw [Table.get?_insert]
    split
    · rfl
    · exact hother

/-- A key that is there at the end was there at the beginning or is one that may change. -/
theorem Within.contains (h : Store.Within keys store after) {key : String}
    (hkey : after.contains key = true) : store.contains key = true ∨ keys key := by
  by_cases hchanged : keys key
  · exact .inr hchanged
  · unfold Table.contains at hkey ⊢
    rw [h.frame key hchanged] at hkey
    exact .inl hkey

/-- As no key is lost, a store never gets smaller. -/
theorem Within.size_le (h : Store.Within keys store after) : store.size ≤ after.size := by
  have hsubset : store.keys ⊆ after.keys := by
    intro key hkey
    rw [← Table.contains_iff] at hkey ⊢
    exact h.kept key hkey
  have hle := (List.subperm_of_subset store.distinct hsubset).length_le
  unfold Table.keys at hle
  rw [List.length_map, List.length_map] at hle
  exact hle

end Store

/-- Files change only where these paths lead to. -/
def Files.Within (paths : String → Prop) (files after : Files) : Prop :=
  ∀ place, (∀ path, paths path → Files.target? path ≠ some place) →
    after.entries.get? place = files.entries.get? place

/-- A run that does no more than these leaves can do: it stores values under their keys, takes no
key away, writes the files of their paths, and attaches their listeners behind those that are there.
-/
structure Effect.Within (allowed : Body → Prop) (world : World) (journal : Journal)
    (after : World) : Prop where
  store : Store.Within (fun key => allowed (.state key)) world.store after.store
  files : Files.Within (fun path => allowed (.file path)) world.files after.files
  wrote : ∀ path content, .wrote path content ∈ journal → allowed (.file path)
  attached : ∃ specs, after.listeners = world.listeners ++ specs ∧
    ∀ spec ∈ specs, allowed (.listener spec)

section Running

variable {allowed : Body → Prop} {user : String}

theorem Effect.within_same {world : World} {journal : Journal}
    (hwrote : ∀ event ∈ journal, ∀ path content, event ≠ .wrote path content) :
    Effect.Within allowed world journal world where
  store := Store.within_refl _ _
  files _ _ := rfl
  wrote path content hmem := absurd rfl (hwrote _ hmem path content)
  attached := ⟨[], (List.append_nil _).symm, fun _ hspec => absurd hspec List.not_mem_nil⟩

/-- A single event other than a write is within every footprint, if the world stays as it is. -/
theorem Effect.within_mark {world : World} {event : Event}
    (hwrote : ∀ path content, event ≠ .wrote path content) :
    Effect.Within allowed world [event] world :=
  within_same (List.forall_mem_singleton.2 hwrote)

/-- Footprints compose, so it is enough to look at the leaves. -/
theorem Effect.within_composes (allowed : Body → Prop) :
    Effect.Composes fun _ => Effect.Within allowed := by
  apply composes_of_marks
  · intro world
    exact within_same nofun
  · intro world event hnote
    apply within_mark
    rintro path content rfl
    cases hnote
  · intro world command
    exact within_mark nofun
  · intro world
    exact within_mark nofun
  · intro before between after journal later hfirst hlater
    constructor
    · exact hfirst.store.trans hlater.store
    · intro place hother
      exact (hlater.files place hother).trans (hfirst.files place hother)
    · intro path content hwrote
      rcases List.mem_append.1 hwrote with hwrote | hwrote
      · exact hfirst.wrote path content hwrote
      · exact hlater.wrote path content hwrote
    · obtain ⟨specs, hspecs, hfirstAllowed⟩ := hfirst.attached
      obtain ⟨more, hmore, hlaterAllowed⟩ := hlater.attached
      refine ⟨specs ++ more, ?_, List.forall_mem_append.2 ⟨hfirstAllowed, hlaterAllowed⟩⟩
      rw [hmore, hspecs, List.append_assoc]

/-- Each allowed leaf stays within the footprint that it belongs to, by itself. -/
theorem Effect.within_allows (allowed : Body → Prop) (user : String) :
    Effect.Allows (Effect.Within allowed) user allowed where
  stored key hkey value world := by
    have hmark : Effect.Within allowed world [.stored key (world.store.get? key) value] world :=
      within_mark nofun
    exact { hmark with store := Store.within_insert hkey value }
  wrote path hpath content world files hwrite := by
    have hnothing : Effect.Within allowed world [] world := within_same nofun
    refine { hnothing with files := ?_, wrote := ?_ }
    · intro place hother
      exact Files.get?_write hwrite (hother path hpath)
    · intro other written hmem
      cases List.mem_singleton.1 hmem
      exact hpath
  attached spec hspec world _ := by
    have hmark : Effect.Within allowed world [.attached spec] world := within_mark nofun
    exact { hmark with attached := ⟨[spec], rfl, List.forall_mem_singleton.2 hspec⟩ }
  started _ _ _ := within_mark nofun
  ended _ _ := within_mark nofun

/-- A command stays within its footprint: the keys, files and listeners of the leaves that it may
come to, the hooks that it sets off included. -/
theorem Command.run_within (armed : Hooks) (user : String) (command : Command)
    (args : List String) (world : World) :
    let outcome := command.run (armed.onStore user) args world
    Effect.Within (armed.Reaches command.leaves) world outcome.journal outcome.world :=
  Command.run_has_of_allowed (Effect.within_composes _) (Effect.within_allows _ user)
    (armed.reaches_closed command.leaves) (fun _ hleaf => .own hleaf) args world

theorem Step.run_within (armed : Hooks) (user : String) (step : Step) (args : List String)
    (world : World) :
    let outcome := step.run (armed.onStore user) args world
    Effect.Within (armed.Reaches step.leaves) world outcome.journal outcome.world :=
  Step.run_has_of_allowed (Effect.within_composes _) (Effect.within_allows _ user)
    (armed.reaches_closed step.leaves) (fun _ hleaf => .own hleaf) args world

/-- A value that its own hook does not store again stands when all hooks are done. -/
theorem Hooks.get?_onStore {armed : Hooks} {key : String}
    (hfree : ∀ step, armed.get? key = some step → ¬ armed.Reaches step.leaves (.state key))
    (user : String) (args : List String) (world : World) :
    (armed.onStore user key args world).world.store.get? key = some (Text.unwords args) := by
  rw [onStore_eq]
  dsimp only
  split
  · exact (Table.get?_insert ..).trans (if_pos rfl)
  · rename_i step hfired
    obtain ⟨_, hget⟩ := fired?_eq_some hfired
    rw [around_world]
    have hclosed : Closed (armed.erase key) (armed.Reaches step.leaves) :=
      (armed.reaches_closed step.leaves).erase key
    have hrun := Step.run_has_of_allowed (Effect.within_composes _) (Effect.within_allows _ user)
      hclosed (fun _ hleaf => Reaches.own hleaf) (Text.words (Text.unwords args))
      (world.set key (Text.unwords args))
    have hstored : (world.set key (Text.unwords args)).store.get? key =
        some (Text.unwords args) :=
      (Table.get?_insert ..).trans (if_pos rfl)
    exact (hrun.store.frame key (hfree step hget)).trans hstored

end Running

end CommandBot
