import CommandBot.Proofs.Command.Content
import CommandBot.Proofs.Scope.Growth

namespace CommandBot.Scope

variable {scope larger : Scope}

/-- A larger scope holds all that this one holds, as far as content goes. Names may have been
declared in it that this one does not know. -/
structure Within (scope larger : Scope) : Prop where
  classes : larger.classes = scope.classes
  commands : ∀ name command, scope.commands.get? name = some command →
    ∃ known, larger.commands.get? name = some known ∧ known.content = command.content

/-- None of these words is the name of a command. -/
def Frees (scope : Scope) (words : List String) : Prop :=
  ∀ word ∈ words, scope.commands.get? word = none

/-- What was read in one scope is read in a larger one with the same content, unless a selector in
it has become a name. -/
def Keeps {α : Type} (larger : Scope) (selectors : α → List String) (content : α → α)
    (read again : Except Error α) : Prop :=
  ∀ a, read = .ok a → larger.Frees (selectors a) →
    ∃ b, again = .ok b ∧ content b = content a

theorem frees_append {words more : List String} :
    larger.Frees (words ++ more) ↔ larger.Frees words ∧ larger.Frees more :=
  List.forall_mem_append

theorem Extends.within (h : scope.Extends larger) : scope.Within larger where
  classes := h.classes
  commands name command hget := ⟨command, h.commands name command hget, rfl⟩

namespace Within

theorem class?_eq (h : scope.Within larger) (name : String) :
    larger.class? name = scope.class? name := by
  unfold class?
  rw [h.classes]

/-- A word that means something goes on meaning something. The converse fails, and that is why
selectors need attention. -/
theorem meant (h : scope.Within larger) {name : String}
    (hmeant : ((scope.class? name).isSome || scope.commands.contains name) = true) :
    ((larger.class? name).isSome || larger.commands.contains name) = true := by
  simp only [Bool.or_eq_true] at hmeant ⊢
  rcases hmeant with hclass | hcommand
  · rw [h.class?_eq]
    exact .inl hclass
  · right
    obtain ⟨command, hget⟩ := Option.isSome_iff_exists.1 hcommand
    obtain ⟨known, hknown, _⟩ := h.commands name command hget
    simp [Table.contains, hknown]

theorem reference (h : scope.Within larger) {name : String} {target : Command}
    (htarget : scope.reference name = .ok target) :
    ∃ known, larger.reference name = .ok known ∧ known.content = target.content := by
  obtain ⟨known, hknown, hcontent⟩ := h.commands name target (reference_eq_ok_iff.1 htarget)
  exact ⟨known, reference_eq_ok_iff.2 hknown, hcontent⟩

/-! ### Bodies -/

/-- An alias is read with the same content, since its target is. -/
theorem shorthandBody (h : scope.Within larger) {args : List Json} :
    larger.Keeps Body.selectors Body.content (scope.shorthandBody args)
      (larger.shorthandBody args) := by
  intro body hbody _
  unfold Scope.shorthandBody at hbody ⊢
  split at hbody
  · cases hbody
  · obtain ⟨texts, htexts, hbody⟩ := bind_eq_ok_iff.1 hbody
    obtain ⟨target, htarget, hbody⟩ := bind_eq_ok_iff.1 hbody
    cases hbody
    obtain ⟨known, hknown, hcontent⟩ := h.reference htarget
    refine ⟨.shorthand known (texts.flatMap Text.words), ?_, ?_⟩
    · exact bind_eq_ok_iff.2 ⟨texts, htexts, bind_eq_ok_iff.2 ⟨known, hknown, rfl⟩⟩
    · rw [Body.content, hcontent, Body.content]
  · cases hbody

/-- A listener is read with the same content if what it runs is. -/
theorem listenerBody {place other : Place} {name : String} {args : List Json}
    {listened again : Unit → Except Error Step}
    (hlistened : larger.Keeps Step.selectors Step.content (listened ()) (again ())) :
    larger.Keeps Body.selectors Body.content (Scope.listenerBody place name args listened)
      (Scope.listenerBody other name args again) := by
  intro body hbody hfree
  unfold Scope.listenerBody at hbody ⊢
  split at hbody
  · split at hbody
    · cases hbody
    · rename_i fields hfields
      by_cases htrigger : fields.trigger.isEmpty
      · rw [if_pos htrigger] at hbody
        cases hbody
      · rw [if_neg htrigger] at hbody
        obtain ⟨step, hstep, hbody⟩ := bind_eq_ok_iff.1 hbody
        cases hbody
        obtain ⟨known, hknown, hcontent⟩ := hlistened step hstep hfree
        refine ⟨.listener ⟨other, fields.trigger, fields.user, fields.temporary, known⟩, ?_, ?_⟩
        · rw [if_neg htrigger]
          exact bind_eq_ok_iff.2 ⟨known, hknown, rfl⟩
        · simp only [Body.content, Listener.content, hcontent]
  · cases hbody

/-- A body has the content of its parts, and apart from them only the commands that an alias refers
to come from the scope. -/
theorem body (h : scope.Within larger) {place other : Place} {tag : ClassTag} {name : String}
    {args : List Json} (parts again : Parts)
    (hsteps : larger.Keeps Step.selectorsAll Step.contentAll (parts.steps ()) (again.steps ()))
    (hbranches :
      larger.Keeps Branch.selectorsAll Branch.contentAll (parts.branches ()) (again.branches ()))
    (hlistened : larger.Keeps Step.selectors Step.content (parts.listened ()) (again.listened ())) :
    larger.Keeps Body.selectors Body.content (scope.body place tag name args parts)
      (larger.body other tag name args again) := by
  cases tag with
  | shorthand => exact h.shorthandBody
  | listener => exact listenerBody hlistened
  | sequence =>
    intro body hbody hfree
    obtain ⟨steps, hread, rfl⟩ := map_eq_ok_iff.1 hbody
    obtain ⟨known, hknown, hcontent⟩ := hsteps steps hread hfree
    exact ⟨.sequence known, map_eq_ok_iff.2 ⟨known, hknown, rfl⟩, congrArg Body.sequence hcontent⟩
  | option =>
    intro body hbody hfree
    obtain ⟨branches, hread, rfl⟩ := map_eq_ok_iff.1 hbody
    obtain ⟨known, hknown, hcontent⟩ := hbranches branches hread hfree
    exact ⟨.option known, map_eq_ok_iff.2 ⟨known, hknown, rfl⟩, congrArg Body.option hcontent⟩
  | state | echo | file | info | format =>
    intro body hbody _
    exact ⟨body, hbody, rfl⟩

/-! ### Entries -/

mutual

/-- By induction over the entry. The place may be any other one, since content does not show it. -/
theorem resolve (h : scope.Within larger) (place other : Place) : ∀ entry : Json,
    larger.Keeps Step.selectors Step.content (scope.resolve place entry)
      (larger.resolve other entry)
  | .string name => by
    intro step hstep _
    rw [Scope.resolve] at hstep ⊢
    obtain ⟨target, htarget, hstep⟩ := bind_eq_ok_iff.1 hstep
    cases hstep
    obtain ⟨known, hknown, hcontent⟩ := h.reference htarget
    refine ⟨.reference known [], bind_eq_ok_iff.2 ⟨known, hknown, rfl⟩, ?_⟩
    rw [Step.content, hcontent, Step.content]
  | .array items => by
    rw [Scope.resolve, Scope.resolve]
    exact h.resolveItems place other items
  | .null | .bool _ | .number _ | .object _ => by
    intro step hstep
    simp [Scope.resolve] at hstep

/-- The items of an entry hold no selectors of their own. -/
theorem resolveItems (h : scope.Within larger) (place other : Place) : ∀ items : List Json,
    larger.Keeps Step.selectors Step.content (scope.resolveItems place items)
      (larger.resolveItems other items)
  | .string head :: args => by
    have hsteps := h.resolveSteps place other 0 args
    have hbranches := h.resolveBranches place other 0 args
    have hlistened := h.resolveListened place other args
    intro step hstep hfree
    rw [Scope.resolveItems] at hstep ⊢
    rw [h.class?_eq]
    cases hclass : scope.class? head with
    | none =>
      rw [hclass] at hstep
      obtain ⟨target, htarget, hstep⟩ := bind_eq_ok_iff.1 hstep
      obtain ⟨texts, htexts, hstep⟩ := bind_eq_ok_iff.1 hstep
      cases hstep
      obtain ⟨known, hknown, hcontent⟩ := h.reference htarget
      refine ⟨.reference known texts, ?_, ?_⟩
      · exact bind_eq_ok_iff.2 ⟨known, hknown, bind_eq_ok_iff.2 ⟨texts, htexts, rfl⟩⟩
      · rw [Step.content, hcontent, Step.content]
    | some tag =>
      rw [hclass] at hstep
      obtain ⟨body, hbody, hstep⟩ := bind_eq_ok_iff.1 hstep
      cases hstep
      obtain ⟨known, hknown, hcontent⟩ :=
        h.body (scope.parts place args) (larger.parts other args) hsteps hbranches hlistened body
          hbody hfree
      refine ⟨.inline ⟨"", head, known⟩, bind_eq_ok_iff.2 ⟨known, hknown, rfl⟩, ?_⟩
      simp only [Step.content, Command.content, hcontent]
  | [] | .null :: _ | .bool _ :: _ | .number _ :: _ | .array _ :: _ | .object _ :: _ => by
    intro step hstep
    simp [Scope.resolveItems] at hstep

theorem resolveSteps (h : scope.Within larger) (place other : Place) (position : Nat) :
    ∀ entries : List Json,
      larger.Keeps Step.selectorsAll Step.contentAll (scope.resolveSteps place position entries)
        (larger.resolveSteps other position entries)
  | [] => by
    intro steps hsteps _
    rw [Scope.resolveSteps] at hsteps ⊢
    exact ⟨steps, hsteps, rfl⟩
  | entry :: entries => by
    intro steps hsteps hfree
    rw [Scope.resolveSteps] at hsteps ⊢
    obtain ⟨step, hstep, hsteps⟩ := bind_eq_ok_iff.1 hsteps
    obtain ⟨later, hlater, hsteps⟩ := bind_eq_ok_iff.1 hsteps
    cases hsteps
    obtain ⟨hfree, hfreeLater⟩ := frees_append.1 hfree
    obtain ⟨known, hknown, hcontent⟩ := h.resolve _ (position :: other) entry step hstep hfree
    obtain ⟨knownLater, hknownLater, hcontentLater⟩ :=
      h.resolveSteps place other (position + 1) entries later hlater hfreeLater
    refine ⟨known :: knownLater, ?_, ?_⟩
    · exact bind_eq_ok_iff.2 ⟨known, hknown, bind_eq_ok_iff.2 ⟨knownLater, hknownLater, rfl⟩⟩
    · rw [Step.contentAll, hcontent, hcontentLater, Step.contentAll]

theorem resolveBranches (h : scope.Within larger) (place other : Place) (position : Nat) :
    ∀ entries : List Json,
      larger.Keeps Branch.selectorsAll Branch.contentAll
        (scope.resolveBranches place position entries)
        (larger.resolveBranches other position entries)
  | [] => by
    intro branches hbranches _
    rw [Scope.resolveBranches] at hbranches ⊢
    exact ⟨branches, hbranches, rfl⟩
  | entry :: entries => by
    intro branches hbranches hfree
    rw [Scope.resolveBranches] at hbranches ⊢
    obtain ⟨⟨selector, step⟩, hbranch, hbranches⟩ := bind_eq_ok_iff.1 hbranches
    obtain ⟨later, hlater, hbranches⟩ := bind_eq_ok_iff.1 hbranches
    cases hbranches
    obtain ⟨hfree, hfreeLater⟩ := frees_append.1 hfree
    obtain ⟨known, hknown, hcontent⟩ :=
      h.resolveBranch _ (position :: other) entry selector step hbranch hfree
    obtain ⟨knownLater, hknownLater, hcontentLater⟩ :=
      h.resolveBranches place other (position + 1) entries later hlater hfreeLater
    refine ⟨⟨selector, known⟩ :: knownLater, ?_, ?_⟩
    · exact bind_eq_ok_iff.2 ⟨_, hknown, bind_eq_ok_iff.2 ⟨knownLater, hknownLater, rfl⟩⟩
    · rw [Branch.contentAll, hcontent, hcontentLater, Branch.contentAll]

/-- The array forms part here: a first word that means nothing is the branch's selector, so it must
mean nothing in the larger scope either. -/
theorem resolveBranch (h : scope.Within larger) (place other : Place) :
    ∀ (entry : Json) (selector : Option String) (step : Step),
      scope.resolveBranch place entry = .ok ⟨selector, step⟩ →
      larger.Frees (selector.toList ++ step.selectors) →
        ∃ known, larger.resolveBranch other entry = .ok ⟨selector, known⟩ ∧
          known.content = step.content
  | .string name, selector, step, hbranch, _ => by
    rw [Scope.resolveBranch] at hbranch ⊢
    obtain ⟨target, htarget, hbranch⟩ := bind_eq_ok_iff.1 hbranch
    cases hbranch
    obtain ⟨known, hknown, hcontent⟩ := h.reference htarget
    refine ⟨.reference known [], bind_eq_ok_iff.2 ⟨known, hknown, rfl⟩, ?_⟩
    rw [Step.content, hcontent, Step.content]
  | .array items, selector, step, hbranch, hfree => by
    have hwhole := h.resolveItems place other items
    match items, hwhole, hbranch with
    | .string head :: rest, hwhole, hbranch =>
      by_cases hmeant : ((scope.class? head).isSome || scope.commands.contains head) = true
      · have hlarger : ((larger.class? head).isSome || larger.commands.contains head) = true :=
          h.meant hmeant
        rw [resolveBranch_of_meant hmeant] at hbranch
        rw [resolveBranch_of_meant hlarger]
        obtain ⟨read, hread, heq⟩ := map_eq_ok_iff.1 hbranch
        cases heq
        obtain ⟨known, hknown, hcontent⟩ := hwhole step hread hfree
        exact ⟨known, map_eq_ok_iff.2 ⟨known, hknown, rfl⟩, hcontent⟩
      · rw [resolveBranch_of_not_meant hmeant] at hbranch
        obtain ⟨read, hread, heq⟩ := map_eq_ok_iff.1 hbranch
        cases heq
        have hfresh := hfree head List.mem_cons_self
        have hrest := (frees_append.1 hfree).2
        have hlarger : ¬ ((larger.class? head).isSome || larger.commands.contains head) = true := by
          obtain ⟨hclass, _⟩ : scope.class? head = none ∧ scope.commands.contains head = false := by
            simpa using hmeant
          simp [h.class?_eq, hclass, Table.contains, hfresh]
        rw [resolveBranch_of_not_meant hlarger]
        have hkeyed : ∃ known, larger.resolveKeyed other head rest = .ok known ∧
            known.content = step.content := by
          match rest, hread with
          | [], hread => cases hread
          | [entry], hread => exact h.resolve place other entry step hread hrest
          | entry :: next :: others, hread =>
            exact h.resolveItems place other (entry :: next :: others) step hread hrest
        obtain ⟨known, hknown, hcontent⟩ := hkeyed
        exact ⟨known, map_eq_ok_iff.2 ⟨known, hknown, rfl⟩, hcontent⟩
  | .null, _, _, hbranch, _ | .bool _, _, _, hbranch, _ | .number _, _, _, hbranch, _
  | .object _, _, _, hbranch, _ => by
    simp [Scope.resolveBranch] at hbranch

theorem resolveListened (h : scope.Within larger) (place other : Place) :
    ∀ (args : List Json) (step : Step), scope.resolveListened place args = .ok step →
      larger.Frees step.selectors →
        ∃ known, larger.resolveListened other args = .ok known ∧ known.content = step.content
  | [.object entries], step, hstep, hfree => by
    rw [Scope.resolveListened] at hstep ⊢
    exact h.resolveField place other entries step hstep hfree
  | [.array (_ :: _ :: _ :: command :: _)], step, hstep, hfree => by
    rw [Scope.resolveListened] at hstep ⊢
    exact h.resolve (0 :: place) (0 :: other) command step hstep hfree

theorem resolveField (h : scope.Within larger) (place other : Place) :
    ∀ entries : List (String × Json),
      larger.Keeps Step.selectors Step.content (scope.resolveField place entries)
        (larger.resolveField other entries)
  | [] => by
    intro step hstep
    simp [Scope.resolveField] at hstep
  | (field, value) :: entries => by
    rw [Scope.resolveField, Scope.resolveField]
    split
    · exact h.resolve (0 :: place) (0 :: other) value
    · exact h.resolveField place other entries

end

/-- A declaration leads to the same content in a larger scope. -/
theorem declared (h : scope.Within larger) (entry : Json) :
    larger.Keeps Command.selectors Command.content (scope.declared entry)
      (larger.declared entry) := by
  intro command hcommand hfree
  unfold Scope.declared at hcommand ⊢
  split at hcommand
  · rename_i head rest
    rw [h.class?_eq]
    split at hcommand
    · cases hcommand
    · rename_i tag hclass
      split at hcommand
      · rename_i name args
        by_cases hname : name.isEmpty
        · rw [if_pos hname] at hcommand
          cases hcommand
        · rw [if_neg hname] at hcommand
          obtain ⟨body, hbody, hcommand⟩ := bind_eq_ok_iff.1 hcommand
          cases hcommand
          obtain ⟨known, hknown, hcontent⟩ := h.body (scope.parts [scope.commands.size] args)
            (larger.parts [larger.commands.size] args) (h.resolveSteps _ _ 0 args)
            (h.resolveBranches _ _ 0 args) (h.resolveListened _ _ args) body hbody hfree
          refine ⟨⟨name, head, known⟩, ?_, ?_⟩
          · rw [if_neg hname]
            exact bind_eq_ok_iff.2 ⟨known, hknown, rfl⟩
          · rw [Command.content, hcontent, Command.content]
      · cases hcommand
  · cases hcommand
  · cases hcommand

end Within

end CommandBot.Scope
