import CommandBot.Proofs.Document.Declarations
import CommandBot.Proofs.Scope.Larger

namespace CommandBot.Document

variable {scope middle later final : Scope}

/-- No option written in a command of the scope has a selector that is a name in the final one. -/
def SelectorsFreeIn (final scope : Scope) : Prop :=
  ∀ name command, scope.commands.get? name = some command → final.Frees command.selectors

instance (final scope : Scope) : Decidable (SelectorsFreeIn final scope) :=
  decidable_of_iff (∀ entry ∈ scope.commands.entries, ∀ selector ∈ entry.2.selectors,
      final.commands.get? selector = none) <| by
    constructor
    · intro h name command hget
      exact h (name, command) (Table.mem_entries_iff.2 hget)
    · rintro h ⟨name, command⟩ hmem
      exact h name command (Table.mem_entries_iff.1 hmem)

/-- Two scopes inside a final one read an entry alike, as far as content goes: both readings are
what the final scope makes of it. -/
theorem content_eq_of_declared {entry : Json} {command other : Command}
    (hscope : scope.Within final) (hmiddle : middle.Within final)
    (hcommand : scope.declared entry = .ok command) (hother : middle.declared entry = .ok other)
    (hfree : final.Frees command.selectors) (hotherFree : final.Frees other.selectors) :
    other.content = command.content := by
  obtain ⟨known, hknown, hcontent⟩ := hscope.declared entry command hcommand hfree
  obtain ⟨again, hagain, hsame⟩ := hmiddle.declared entry other hother hotherFree
  rw [hknown] at hagain
  cases hagain
  exact hsame.symm.trans hcontent

/-- A declaration that the final scope knows with the same content leads to a scope inside it again.
-/
theorem within_register {command known : Command} (hscope : scope.Within final)
    (h : (scope.register command).result = .ok later)
    (hknown : final.commands.get? command.name = some known)
    (hcontent : known.content = command.content) : later.Within final := by
  obtain ⟨_, _, rfl⟩ := Scope.register_eq_ok h
  refine ⟨hscope.classes, ?_⟩
  intro name found hget
  rw [Table.get?_insert] at hget
  split at hget
  · rename_i hname
    cases hget
    exact ⟨known, hname ▸ hknown, hcontent⟩
  · exact hscope.commands name found hget

/-- By induction over the entries, each of which the other list declares as well, at some point. -/
theorem within_declareAll {start : Scope} {entries more : List Json}
    (hscope : scope.Within final) (h : (declareAll scope entries).result = .ok later)
    (hfinal : (declareAll start more).result = .ok final) (hsubset : entries ⊆ more)
    (hfree : SelectorsFreeIn final later) (hfinalFree : SelectorsFreeIn final final) :
    later.Within final := by
  induction entries generalizing scope with
  | nil =>
    cases h
    exact hscope
  | cons entry entries ih =>
    obtain ⟨next, command, hdeclare, hrest⟩ := declareAll_cons.1 h
    obtain ⟨hdeclared, hregister⟩ := Scope.declare_eq_ok hdeclare
    obtain ⟨hentry, hentries⟩ := List.cons_subset.1 hsubset
    obtain ⟨before, known, hextends, hknown, hget⟩ := exists_declared hfinal hentry
    have hcommand := (extends_declareAll hrest).commands _ _ (Scope.get?_register hregister)
    have hcontent : known.content = command.content :=
      content_eq_of_declared hscope hextends.within hdeclared hknown
        (hfree command.name command hcommand) (hfinalFree known.name known hget)
    have hname : known.name = command.name := by
      rw [← known.content_name, hcontent, command.content_name]
    exact ih (within_register hscope hregister (hname ▸ hget) hcontent) hrest hentries

/-- Declaring more, or in another order, changes no command that is declared either way, with one
exception. Both lists being accepted over the same class names, and the entries of the first one all
being in the second one, each name of the first list denotes the same content in the second one, if
no selector of an option in either list is a name that the second one declares. So two orders of the
same declarations give the same table. -/
theorem declareAll_content_eq {classes : ClassNames} {entries more : List Json}
    (h : (declareAll (.ofClasses classes) entries).result = .ok scope)
    (hmore : (declareAll (.ofClasses classes) more).result = .ok final)
    (hsubset : entries ⊆ more)
    (hfree : SelectorsFreeIn final scope) (hmoreFree : SelectorsFreeIn final final) :
    (∀ name command, scope.commands.get? name = some command →
      ∃ known, final.commands.get? name = some known ∧ known.content = command.content) ∧
    (more.Perm entries → ∀ name,
      (final.commands.get? name).map Command.content =
        (scope.commands.get? name).map Command.content) := by
  have hempty (large : Scope) (hclasses : large.classes = classes) :
      (Scope.ofClasses classes).Within large := by
    refine ⟨hclasses, ?_⟩
    rintro name command ⟨⟩
  have hscope := within_declareAll (hempty final (extends_declareAll hmore).classes) h hmore
    hsubset hfree hmoreFree
  refine ⟨hscope.commands, ?_⟩
  intro hperm name
  cases hget : scope.commands.get? name with
  | some command =>
    obtain ⟨known, hknown, hcontent⟩ := hscope.commands name command hget
    rw [hknown, Option.map_some, Option.map_some, hcontent]
  | none =>
    -- The other list declares nothing new either, because free selectors stay free in less.
    have hfreeIn (large : Scope) (hlarge : SelectorsFreeIn final large) :
        SelectorsFreeIn scope large := by
      intro name command hget selector hselector
      have hfresh := hlarge name command hget selector hselector
      cases hknown : scope.commands.get? selector with
      | none => rfl
      | some known =>
        obtain ⟨other, hother, _⟩ := hscope.commands selector known hknown
        rw [hfresh] at hother
        cases hother
    have hfinal := within_declareAll (hempty scope (extends_declareAll h).classes) hmore h
      hperm.subset (hfreeIn final hmoreFree) (hfreeIn scope hfree)
    cases hother : final.commands.get? name with
    | none => rfl
    | some command =>
      obtain ⟨known, hknown, _⟩ := hfinal.commands name command hother
      rw [hget] at hknown
      cases hknown

/-- A command, a listener that runs it, and an option that selects it by a word of its own. -/
def hello : Json := .array [.string "InfoCommand", .string "hello", .string "hello!"]
def watch : Json := .array [.string "ListenerCommand", .string "watch",
  .object [("trigger", .string "gg"), ("command", .string "hello")]]
def pick : Json := .array [.string "OptionCommand", .string "pick",
  .array [.string "hi", .string "hello"]]

/-- The listener is declared last or before the option, at different places therefore, but with one
content. -/
theorem watch_content_eq :
    ∃ scope final, (declareAll (.ofClasses .empty) [hello, watch, pick]).result = .ok scope ∧
      (declareAll (.ofClasses .empty) [hello, pick, watch]).result = .ok final ∧
      SelectorsFreeIn final scope ∧ SelectorsFreeIn final final ∧
      (∃ command known, scope.commands.get? "watch" = some command ∧
        final.commands.get? "watch" = some known ∧ known.content = command.content) ∧
      ∀ name, (final.commands.get? name).map Command.content =
        (scope.commands.get? name).map Command.content := by
  have hchecked : (declareAll (.ofClasses .empty) [hello, watch, pick]).result.toOption.any
      (fun scope => (declareAll (.ofClasses .empty) [hello, pick, watch]).result.toOption.any
        fun final => SelectorsFreeIn final scope ∧ SelectorsFreeIn final final ∧
          (scope.commands.get? "watch").isSome) = true := by
    decide +kernel
  obtain ⟨scope, hdeclared, hboth⟩ := exists_of_any_toOption hchecked
  obtain ⟨final, hreordered, hall⟩ := exists_of_any_toOption hboth
  obtain ⟨hfree, hfinalFree, hwatch⟩ := of_decide_eq_true hall
  obtain ⟨command, hget⟩ := Option.isSome_iff_exists.1 hwatch
  have hperm : [hello, pick, watch].Perm [hello, watch, pick] :=
    (List.Perm.swap watch pick []).cons hello
  obtain ⟨hcontent, hsame⟩ :=
    declareAll_content_eq hdeclared hreordered hperm.symm.subset hfree hfinalFree
  obtain ⟨known, hknown, hequal⟩ := hcontent "watch" command hget
  exact ⟨scope, final, hdeclared, hreordered, hfree, hfinalFree,
    ⟨command, known, hget, hknown, hequal⟩, hsame hperm⟩

-- With a command of the name `hi` before it, the option reads no selector: the array is that
-- command with an argument.
example :
    let hi : Json := .array [.string "InfoCommand", .string "hi", .string "hi!"]
    let selectors (entries : List Json) : Option (List String) :=
      ((declareAll (.ofClasses .empty) entries).result.toOption.bind
        (·.commands.get? "pick")).map Command.selectors
    selectors [hello, pick, hi] = some ["hi"] ∧ selectors [hello, hi, pick] = some [] := by
  decide +kernel

end CommandBot.Document
