import CommandBot.Proofs.Scope.Growth

namespace CommandBot

/-- Listeners at places of their own, all of them at a place or inside it. Places tell listeners
apart, so no two of a document may share one. -/
structure SpecsAt (place : Place) (specs : List Listener) : Prop where
  distinct : (specs.map Listener.place).Nodup
  inside : ∀ spec ∈ specs, place <:+ spec.place

theorem specsAt_nil (place : Place) : SpecsAt place [] where
  distinct := .nil
  inside := by
    intro spec hspec
    cases hspec

theorem EachAt.imp {α : Type} {P Q : Place → α → Prop} (himp : ∀ place item, P place item →
    Q place item) {place : Place} {position : Nat} {items : List α}
    (h : EachAt P place position items) : EachAt Q place position items := by
  induction items generalizing position with
  | nil => trivial
  | cons item items ih => exact ⟨himp _ _ h.1, ih h.2⟩

/-- Two places that end in the same place, at different positions in it, differ. -/
theorem ne_of_positions {place first second : Place} {position index : Nat}
    (hfirst : (position :: place) <:+ first) (hsecond : (index :: place) <:+ second)
    (hne : position ≠ index) : first ≠ second := by
  rintro rfl
  have hsuffix := List.suffix_of_suffix_length_le hfirst hsecond (by simp)
  have heq := hsuffix.eq_of_length (by simp)
  exact hne (List.cons.inj heq).1

/-- The specs of several items, each at its own position, are at places of their own. -/
theorem specsAt_flatMap {α : Type} {specs : α → List Listener} {place : Place} {position : Nat}
    {items : List α}
    (h : EachAt (fun place item => SpecsAt place (specs item)) place position items) :
    ((items.flatMap specs).map Listener.place).Nodup ∧
      ∀ spec ∈ items.flatMap specs, ∃ index, position ≤ index ∧
        (index :: place) <:+ spec.place := by
  induction items generalizing position with
  | nil => simp
  | cons item items ih =>
    obtain ⟨hitem, hlater⟩ := h
    obtain ⟨hdistinct, hinside⟩ := ih hlater
    rw [List.flatMap_cons, List.map_append]
    constructor
    · refine List.nodup_append.2 ⟨hitem.distinct, hdistinct, ?_⟩
      intro first hfirst second hsecond
      obtain ⟨spec, hspec, rfl⟩ := List.mem_map.1 hfirst
      obtain ⟨other, hother, rfl⟩ := List.mem_map.1 hsecond
      obtain ⟨index, hindex, hsuffix⟩ := hinside other hother
      exact ne_of_positions (hitem.inside spec hspec) hsuffix (by omega)
    · intro spec hspec
      rcases List.mem_append.1 hspec with hspec | hspec
      · exact ⟨position, Nat.le_refl _, hitem.inside spec hspec⟩
      · obtain ⟨index, hindex, hsuffix⟩ := hinside spec hspec
        exact ⟨index, by omega, hsuffix⟩

/-- The specs of the items of a composite are at places of their own if those of each item are. -/
theorem specsAt_of_each {α : Type} {specs : α → List Listener} {place : Place} {items : List α}
    (h : EachAt (fun place item => SpecsAt place (specs item)) place 0 items) :
    SpecsAt place (items.flatMap specs) := by
  obtain ⟨hdistinct, hinside⟩ := specsAt_flatMap h
  refine ⟨hdistinct, ?_⟩
  intro spec hspec
  obtain ⟨index, _, hsuffix⟩ := hinside spec hspec
  exact (List.suffix_cons index place).trans hsuffix

namespace Scope

variable {scope later : Scope}

/-- A listener stands at the place of its command, and what it runs inside that place. -/
theorem specsAt_body {place : Place} {name classAlias : String} {body : Body}
    (h : body.ReadIn scope (fun place step => SpecsAt place step.specs) place) :
    SpecsAt place (Command.specs ⟨name, classAlias, body⟩) := by
  rw [Command.specs_eq]
  cases body with
  | sequence steps => exact specsAt_of_each h
  | option branches =>
    have hsteps := EachAt.imp (fun _ (branch : Branch) hread => hread.1) h
    have hspecs := specsAt_of_each hsteps
    rw [← List.flatMap_map] at hspecs
    exact hspecs
  | listener spec =>
    obtain ⟨_, hplace, hstep⟩ := h
    simp only [Body.listener?, Body.steps, Option.toList_some, List.flatMap_singleton,
      List.singleton_append]
    constructor
    · rw [List.map_cons, List.nodup_cons]
      refine ⟨?_, hstep.distinct⟩
      intro hmem
      -- What the listener runs is written inside its place, so at longer ones.
      obtain ⟨other, hother, hsame⟩ := List.mem_map.1 hmem
      have hlength := (hstep.inside other hother).length_le
      rw [hsame, hplace] at hlength
      simp only [List.length_cons] at hlength
      omega
    · intro other hother
      rcases List.mem_cons.1 hother with rfl | hother
      · exact hplace ▸ List.suffix_refl _
      · exact (List.suffix_cons 0 place).trans (hstep.inside other hother)
  | shorthand | echo | state | file | info | format => exact specsAt_nil place

/-- Each of the three ways to write a step keeps listeners apart. -/
theorem reads_specsAt (scope : Scope) :
    scope.Reads (fun place step => SpecsAt place step.specs) where
  bare place _ _ _ := specsAt_nil place
  applied place _ _ _ _ _ := specsAt_nil place
  inline _ _ _ _ hread := specsAt_body hread

/-- The listeners of a declaration stand at its number or inside it. -/
theorem declared_specsAt {entry : Json} {command : Command}
    (h : scope.declared entry = .ok command) : SpecsAt [scope.commands.size] command.specs := by
  obtain ⟨head, name, args, body, _, _, rfl, _, hread⟩ := scope.reads_specsAt.declared h
  exact specsAt_body hread

/-! ### What a scope declares -/

/-- The listeners written in the commands of a scope. -/
def specs (scope : Scope) : List Listener := scope.commands.entries.flatMap (·.2.specs)

/-- Listeners at places of their own, in entries that are numbered below `count`. -/
structure Numbered (count : Nat) (specs : List Listener) : Prop where
  distinct : (specs.map Listener.place).Nodup
  below : ∀ spec ∈ specs, ∃ number < count, [number] <:+ spec.place

theorem Numbered.append {count : Nat} {specs more : List Listener} (h : Numbered count specs)
    (hmore : SpecsAt [count] more) : Numbered (count + 1) (specs ++ more) where
  distinct := by
    rw [List.map_append]
    refine List.nodup_append.2 ⟨h.distinct, hmore.distinct, ?_⟩
    intro first hfirst second hsecond
    obtain ⟨spec, hspec, rfl⟩ := List.mem_map.1 hfirst
    obtain ⟨other, hother, rfl⟩ := List.mem_map.1 hsecond
    obtain ⟨number, hnumber, hsuffix⟩ := h.below spec hspec
    exact ne_of_positions hsuffix (hmore.inside other hother) (by omega)
  below := by
    intro spec hspec
    rcases List.mem_append.1 hspec with hspec | hspec
    · obtain ⟨number, hnumber, hsuffix⟩ := h.below spec hspec
      exact ⟨number, by omega, hsuffix⟩
    · exact ⟨count, by omega, hmore.inside spec hspec⟩

/-- No two listeners of a scope share a place, because each declaration numbers its own. -/
theorem Numbered.declare (hscope : Numbered scope.commands.size scope.specs) {entry : Json}
    {command : Command} (h : (scope.declare entry).result = .ok (later, command)) :
    Numbered later.commands.size later.specs := by
  obtain ⟨hdeclared, hregister⟩ := declare_eq_ok h
  obtain ⟨_, hfresh, rfl⟩ := register_eq_ok hregister
  have hentries : (scope.commands.insert command.name command).entries =
      scope.commands.entries ++ [(command.name, command)] :=
    Table.put_of_find_eq_none command hfresh
  have happend := hscope.append (declared_specsAt hdeclared)
  unfold specs Table.size
  rw [hentries, List.flatMap_append, List.length_append]
  simpa [specs, Table.size] using happend

end Scope

end CommandBot
