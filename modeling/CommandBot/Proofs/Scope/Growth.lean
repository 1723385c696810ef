import CommandBot.Proofs.Scope.Sound

namespace CommandBot

namespace Scope

variable {scope later : Scope}

/-- A later scope has the same class names and holds every command of the earlier one under the same
name. So what was sound stays sound. -/
structure Extends (scope later : Scope) : Prop where
  classes : later.classes = scope.classes
  commands : ∀ name command, scope.commands.get? name = some command →
    later.commands.get? name = some command

theorem Extends.refl (scope : Scope) : scope.Extends scope :=
  ⟨rfl, fun _ _ h => h⟩

theorem Extends.trans {last : Scope} (h : scope.Extends later) (hlast : later.Extends last) :
    scope.Extends last :=
  ⟨hlast.classes.trans h.classes, fun name command hget =>
    hlast.commands name command (h.commands name command hget)⟩

/-- Class names mean in a later scope what they meant before. -/
theorem Extends.class?_eq (h : scope.Extends later) (name : String) :
    later.class? name = scope.class? name := by
  unfold class?
  rw [h.classes]

/-- A sound command stays sound, because nothing that it refers to is taken away or replaced. -/
theorem Extends.soundIn (h : scope.Extends later) {command : Command}
    (hsound : command.SoundIn scope) : command.SoundIn later where
  classAlias := by
    rw [h.class?_eq]
    exact hsound.classAlias
  target target htarget := h.commands _ _ (hsound.target target htarget)
  key := hsound.key
  trigger := hsound.trigger

theorem Extends.holdsInPlace (h : scope.Extends later) {commands : List Command}
    (hsound : scope.HoldsInPlace commands) : later.HoldsInPlace commands := by
  intro command hcommand
  obtain ⟨hname, hcommand⟩ := hsound command hcommand
  exact ⟨hname, h.soundIn hcommand⟩

/-- Everything that a sound command refers to, at any depth, is in the scope. -/
theorem get?_of_mem_references {command target : Command} (hsound : command.SoundIn scope)
    (hnested : scope.HoldsInPlace command.nested) (hreferred : target ∈ command.references) :
    scope.commands.get? target.name = some target := by
  obtain ⟨part, hpart, htarget⟩ := List.mem_flatMap.1 hreferred
  rcases List.mem_cons.1 hpart with rfl | hpart
  · exact hsound.target target htarget
  · exact (hnested part hpart).2.target target htarget

/-- How many commands were declared before the one of this name. -/
def rank (scope : Scope) (name : String) : Nat := scope.commands.keys.idxOf name

/-- A scope in which every command stands under its name, is sound at every depth, and refers only
to commands of smaller rank. -/
structure Sound (scope : Scope) : Prop where
  named : scope.Named
  command : ∀ key command, scope.commands.get? key = some command →
    command.SoundIn scope ∧ scope.HoldsInPlace command.nested
  rank : ∀ key command, scope.commands.get? key = some command →
    ∀ target ∈ command.references, scope.rank target.name < scope.rank key

theorem named_ofClasses (classes : ClassNames) : (ofClasses classes).Named := by
  rintro key command ⟨⟩

/-- A scope without commands is sound, so soundness is an invariant of declaring. -/
theorem sound_ofClasses (classes : ClassNames) : (ofClasses classes).Sound where
  named := named_ofClasses classes
  command := by
    rintro key command ⟨⟩
  rank := by
    rintro key command ⟨⟩

/-! ### Declarations -/

/-- Registration adds one command under a new name, which is not empty. -/
theorem register_eq_ok {command : Command} (h : (scope.register command).result = .ok later) :
    command.name ≠ "" ∧ scope.commands.get? command.name = none ∧
      later = { scope with commands := scope.commands.insert command.name command } := by
  unfold register at h
  by_cases hname : command.isAnonymous
  · rw [if_pos hname] at h
    cases h
  · rw [if_neg hname] at h
    by_cases hfresh : scope.commands.contains command.name
    · rw [if_pos hfresh] at h
      cases h
    · rw [if_neg hfresh] at h
      cases h
      refine ⟨?_, ?_, rfl⟩
      · simpa [Command.isAnonymous] using hname
      · simpa [Table.contains] using hfresh

/-- A declaration resolves in the scope as it is, and registers what it resolves to. -/
theorem declare_eq_ok {entry : Json} {command : Command}
    (h : (scope.declare entry).result = .ok (later, command)) :
    scope.declared entry = .ok command ∧ (scope.register command).result = .ok later := by
  unfold declare at h
  rw [Load.result_bind, Load.result_ofExcept] at h
  obtain ⟨first, hfirst, h⟩ := bind_eq_ok_iff.1 h
  rw [Load.result_bind] at h
  obtain ⟨registered, hregistered, h⟩ := bind_eq_ok_iff.1 h
  cases h
  exact ⟨hfirst, hregistered⟩

theorem extends_register {command : Command} (h : (scope.register command).result = .ok later) :
    scope.Extends later := by
  obtain ⟨_, hfresh, rfl⟩ := register_eq_ok h
  refine ⟨rfl, ?_⟩
  intro name known hget
  have hne : command.name ≠ name := by
    rintro rfl
    rw [hfresh] at hget
    cases hget
  rw [Table.get?_insert, if_neg hne]
  exact hget

theorem get?_register {command : Command} (h : (scope.register command).result = .ok later) :
    later.commands.get? command.name = some command := by
  obtain ⟨_, _, rfl⟩ := register_eq_ok h
  rw [Table.get?_insert, if_pos rfl]

theorem keys_register {command : Command} (h : (scope.register command).result = .ok later) :
    later.commands.keys = scope.commands.keys ++ [command.name] := by
  obtain ⟨_, hfresh, rfl⟩ := register_eq_ok h
  exact Table.keys_insert_of_get?_eq_none command hfresh

/-- A new name comes last, so no rank changes. -/
theorem rank_register {command : Command} (h : (scope.register command).result = .ok later)
    {name : String} (hname : name ∈ scope.commands.keys) : later.rank name = scope.rank name := by
  unfold rank
  rw [keys_register h, List.idxOf_append, if_pos hname]

/-- The new command ranks behind all others. -/
theorem rank_register_self {command : Command} (h : (scope.register command).result = .ok later) :
    later.rank command.name = scope.commands.keys.length := by
  have hnew : command.name ∉ scope.commands.keys :=
    Table.find_eq_none_iff.1 (register_eq_ok h).2.1
  unfold rank
  rw [keys_register h, List.idxOf_append, if_neg hnew, List.idxOf_cons_self]
  omega

/-- What stands in a scope after a registration stood there before, or is the new command. -/
theorem get?_register_cases {command : Command} (h : (scope.register command).result = .ok later)
    {key : String} {known : Command} (hget : later.commands.get? key = some known) :
    (key = command.name ∧ known = command) ∨ scope.commands.get? key = some known := by
  obtain ⟨_, _, rfl⟩ := register_eq_ok h
  rw [Table.get?_insert] at hget
  split at hget
  · rename_i hkey
    exact .inl ⟨hkey.symm, (Option.some.inj hget).symm⟩
  · exact .inr hget

/-- Names stay in step with keys. -/
theorem Named.register (hnamed : scope.Named) {command : Command}
    (h : (scope.register command).result = .ok later) : later.Named := by
  intro key known hget
  rcases get?_register_cases h hget with ⟨rfl, rfl⟩ | hold
  · exact ⟨rfl, (register_eq_ok h).1⟩
  · exact hnamed key known hold

/-- Registering a sound command keeps the scope sound. Its references are of smaller rank because
they are in the scope already, while its own name comes behind all names there. -/
theorem Sound.register (hscope : scope.Sound) {command : Command} (hsound : command.SoundIn scope)
    (hnested : scope.HoldsInPlace command.nested)
    (h : (scope.register command).result = .ok later) : later.Sound := by
  have hextends := extends_register h
  refine ⟨hscope.named.register h, ?_, ?_⟩
  · intro key known hget
    rcases get?_register_cases h hget with ⟨rfl, rfl⟩ | hold
    · exact ⟨hextends.soundIn hsound, hextends.holdsInPlace hnested⟩
    · obtain ⟨hknown, hinside⟩ := hscope.command key known hold
      exact ⟨hextends.soundIn hknown, hextends.holdsInPlace hinside⟩
  · intro key known hget target htarget
    rcases get?_register_cases h hget with ⟨rfl, rfl⟩ | hold
    · have hmem := Table.mem_keys_of_get? (get?_of_mem_references hsound hnested htarget)
      rw [rank_register h hmem, rank_register_self h]
      exact List.idxOf_lt_length_of_mem hmem
    · obtain ⟨hknown, hinside⟩ := hscope.command key known hold
      have hmem := Table.mem_keys_of_get? (get?_of_mem_references hknown hinside htarget)
      rw [rank_register h hmem, rank_register h (Table.mem_keys_of_get? hold)]
      exact hscope.rank key known hold target htarget

/-- A declaration keeps the scope sound: what it resolves to is sound in the scope, and refers only
to commands declared before it. -/
theorem Sound.declare (hscope : scope.Sound) {entry : Json} {command : Command}
    (h : (scope.declare entry).result = .ok (later, command)) : later.Sound := by
  obtain ⟨hdeclared, hregister⟩ := declare_eq_ok h
  obtain ⟨hsound, hnested⟩ := hscope.named.declared_soundIn hdeclared
  exact hscope.register hsound hnested hregister

end Scope

end CommandBot
