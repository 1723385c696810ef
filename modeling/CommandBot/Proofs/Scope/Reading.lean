import CommandBot.Proofs.Command.Nested
import CommandBot.Proofs.Except
import CommandBot.Scope.Resolve

namespace CommandBot

/-- The items of a composite have a property, each at its own place, the first one at `position`. -/
def EachAt {α : Type} (P : Place → α → Prop) (place : Place) : Nat → List α → Prop
  | _, [] => True
  | position, item :: items => P (position :: place) item ∧ EachAt P place (position + 1) items

/-- An item of a composite has the property at some place inside it. -/
theorem EachAt.of_mem {α : Type} {P : Place → α → Prop} {place : Place} {position : Nat}
    {items : List α} (h : EachAt P place position items) {item : α} (hitem : item ∈ items) :
    ∃ index, P (index :: place) item := by
  induction items generalizing position with
  | nil => cases hitem
  | cons first items ih =>
    obtain ⟨hfirst, hlater⟩ := h
    rcases List.mem_cons.1 hitem with rfl | hitem
    · exact ⟨position, hfirst⟩
    · exact ih hlater hitem

/-- What a branch that was read is known to be: its step has the property, and its selector, if it
gives one, means nothing in the scope. -/
def Branch.ReadIn (scope : Scope) (P : Place → Step → Prop) (place : Place) (branch : Branch) :
    Prop :=
  P place branch.step ∧ ∀ selector, branch.selector = some selector →
    scope.class? selector = none ∧ scope.commands.contains selector = false

/-- What is known of a body that was read at a place, `P` being known of the steps in it. -/
def Body.ReadIn (scope : Scope) (P : Place → Step → Prop) (place : Place) : Body → Prop
  | .shorthand target fixed =>
    (∃ name, scope.commands.get? name = some target) ∧
      ∃ args : List String, fixed = args.flatMap Text.words
  | .sequence steps => EachAt P place 0 steps
  | .option branches => EachAt (Branch.ReadIn scope P) place 0 branches
  | .state key => key ≠ ""
  | .listener spec => spec.trigger ≠ "" ∧ spec.place = place ∧ P (0 :: place) spec.step
  | _ => True

/-- The property holds of what each of the three ways to write a step leads to, if it holds of the
steps inside. Steps, branches and listeners are resolved in mutual recursion, which is opened here
once, for all such properties. -/
structure Scope.Reads (scope : Scope) (P : Place → Step → Prop) : Prop where
  bare : ∀ place name target, scope.commands.get? name = some target →
    P place (.reference target [])
  applied : ∀ place name target args, scope.class? name = none →
    scope.commands.get? name = some target → P place (.reference target args)
  inline : ∀ place head body, scope.class? head = some body.classTag → body.ReadIn scope P place →
    P place (.inline ⟨"", head, body⟩)

namespace Scope

variable {scope : Scope} {P : Place → Step → Prop} {place : Place}

theorem reference_eq_ok_iff {name : String} {target : Command} :
    scope.reference name = .ok target ↔ scope.commands.get? name = some target := by
  unfold reference
  cases scope.commands.get? name <;> simp

/-! ### Bodies -/

/-- An alias has no steps; it refers to a command of the scope, and its arguments are words. -/
theorem shorthandBody_readIn {args : List Json} {body : Body}
    (h : scope.shorthandBody args = .ok body) :
    body.classTag = .shorthand ∧ body.ReadIn scope P place := by
  unfold shorthandBody at h
  split at h
  · cases h
  · rename_i name rest
    obtain ⟨texts, _, h⟩ := bind_eq_ok_iff.1 h
    obtain ⟨target, htarget, h⟩ := bind_eq_ok_iff.1 h
    cases h
    exact ⟨rfl, ⟨name, reference_eq_ok_iff.1 htarget⟩, texts, rfl⟩
  · cases h

theorem stateBody_readIn {name : String} {args : List Json} {body : Body}
    (h : stateBody name args = .ok body) :
    body.classTag = .state ∧ body.ReadIn scope P place := by
  have hkeyed (key : String)
      (h : (if key.isEmpty then .error (.malformed .stateKeyMissing) else .ok (.state key)) =
        Except.ok (ε := Error) body) : body.classTag = .state ∧ body.ReadIn scope P place := by
    by_cases hkey : key = ""
    · simp [hkey] at h
    · simp only [String.isEmpty_iff, hkey, if_false] at h
      cases h
      exact ⟨rfl, hkey⟩
  unfold stateBody at h
  split at h
  · exact hkeyed name h
  · rename_i key
    exact hkeyed key h
  · cases h

/-- A listener has a trigger that is not empty, and its step is written inside its place. -/
theorem listenerBody_readIn {name : String} {args : List Json}
    {listened : Unit → Except Error Step} {body : Body}
    (hlistened : ∀ step, listened () = .ok step → P (0 :: place) step)
    (h : listenerBody place name args listened = .ok body) :
    body.classTag = .listener ∧ body.ReadIn scope P place := by
  unfold listenerBody at h
  split at h
  · split at h
    · cases h
    · rename_i fields _
      by_cases htrigger : fields.trigger = ""
      · simp [htrigger] at h
      · simp only [String.isEmpty_iff, htrigger, if_false] at h
        obtain ⟨step, hstep, h⟩ := bind_eq_ok_iff.1 h
        cases h
        exact ⟨rfl, htrigger, rfl, hlistened step hstep⟩
  · cases h

/-- Whichever class a body is of, it is read from its own arguments and from its parts, so the
property has to be known of the parts only. -/
theorem body_readIn {tag : ClassTag} {name : String} {args : List Json} {parts : Parts}
    {body : Body} (hsteps : ∀ steps, parts.steps () = .ok steps → EachAt P place 0 steps)
    (hbranches : ∀ branches, parts.branches () = .ok branches →
      EachAt (Branch.ReadIn scope P) place 0 branches)
    (hlistened : ∀ step, parts.listened () = .ok step → P (0 :: place) step)
    (h : scope.body place tag name args parts = .ok body) :
    body.classTag = tag ∧ body.ReadIn scope P place := by
  cases tag with
  | shorthand => exact shorthandBody_readIn h
  | state => exact stateBody_readIn h
  | listener => exact listenerBody_readIn hlistened h
  | sequence =>
    obtain ⟨steps, hparts, rfl⟩ := map_eq_ok_iff.1 h
    exact ⟨rfl, hsteps steps hparts⟩
  | option =>
    obtain ⟨branches, hparts, rfl⟩ := map_eq_ok_iff.1 h
    exact ⟨rfl, hbranches branches hparts⟩
  | echo | file | info | format =>
    obtain ⟨text, _, rfl⟩ := map_eq_ok_iff.1 h
    exact ⟨rfl, trivial⟩

/-! ### Entries -/

/-- How the arguments of a composite resolve at a place. -/
def parts (scope : Scope) (place : Place) (args : List Json) : Parts :=
  ⟨fun _ => scope.resolveSteps place 0 args, fun _ => scope.resolveBranches place 0 args,
    fun _ => scope.resolveListened place args⟩

/-- An array that starts with a class name is a command in place, with a body of that class. -/
theorem resolveItems_of_class {head : String} {tag : ClassTag} {args : List Json}
    (hclass : scope.class? head = some tag) :
    scope.resolveItems place (.string head :: args) =
      (fun body => .inline ⟨"", head, body⟩) <$>
        scope.body place tag "" args (scope.parts place args) := by
  rw [Scope.resolveItems, hclass]
  rfl

/-- A branch whose first word means something is read as a step without a selector. -/
theorem resolveBranch_of_meant {place : Place} {head : String} {rest : List Json}
    (hmeant : ((scope.class? head).isSome || scope.commands.contains head) = true) :
    scope.resolveBranch place (.array (.string head :: rest)) =
      Branch.mk none <$> scope.resolveItems place (.string head :: rest) := by
  unfold Scope.resolveBranch
  dsimp only
  rw [if_pos hmeant]
  rfl

/-- What stands behind a selector. -/
def resolveKeyed (scope : Scope) (place : Place) (head : String) : List Json → Except Error Step
  | [] => .error (.unresolvedReference head)
  | [entry] => scope.resolve place entry
  | rest => scope.resolveItems place rest

/-- A branch whose first word means nothing has that word for its selector. -/
theorem resolveBranch_of_not_meant {place : Place} {head : String} {rest : List Json}
    (hmeant : ¬ ((scope.class? head).isSome || scope.commands.contains head) = true) :
    scope.resolveBranch place (.array (.string head :: rest)) =
      Branch.mk (some head) <$> scope.resolveKeyed place head rest := by
  unfold Scope.resolveBranch
  dsimp only
  rw [if_neg hmeant]
  match rest with
  | [] => rfl
  | [_] => rfl
  | _ :: _ :: _ => rfl

namespace Reads

mutual

/-- The induction principle of resolution, over the entry that is resolved. -/
theorem resolve (hP : scope.Reads P) (place : Place) : ∀ (entry : Json) (step : Step),
    scope.resolve place entry = .ok step → P place step
  | .string name, step, h => by
    rw [Scope.resolve] at h
    obtain ⟨target, htarget, h⟩ := bind_eq_ok_iff.1 h
    cases h
    exact hP.bare place name target (reference_eq_ok_iff.1 htarget)
  | .array items, step, h => by
    rw [Scope.resolve] at h
    exact hP.resolveItems place items step h
  | .null, _, h | .bool _, _, h | .number _, _, h | .object _, _, h => by
    simp [Scope.resolve] at h

theorem resolveItems (hP : scope.Reads P) (place : Place) : ∀ (items : List Json) (step : Step),
    scope.resolveItems place items = .ok step → P place step
  | .string head :: args, step, h => by
    rw [Scope.resolveItems] at h
    cases hclass : scope.class? head with
    | none =>
      rw [hclass] at h
      obtain ⟨target, htarget, h⟩ := bind_eq_ok_iff.1 h
      obtain ⟨texts, _, h⟩ := bind_eq_ok_iff.1 h
      cases h
      exact hP.applied place head target texts hclass (reference_eq_ok_iff.1 htarget)
    | some tag =>
      rw [hclass] at h
      obtain ⟨body, hbody, h⟩ := bind_eq_ok_iff.1 h
      cases h
      obtain ⟨htag, hread⟩ := body_readIn (hP.resolveSteps place 0 args)
        (hP.resolveBranches place 0 args) (hP.resolveListened place args) hbody
      exact hP.inline place head body (htag ▸ hclass) hread
  | [], _, h | .null :: _, _, h | .bool _ :: _, _, h | .number _ :: _, _, h | .array _ :: _, _, h
  | .object _ :: _, _, h => by
    simp [Scope.resolveItems] at h

/-- The steps of a composite have it, each at its own place. -/
theorem resolveSteps (hP : scope.Reads P) (place : Place) (position : Nat) :
    ∀ (entries : List Json) (steps : List Step),
      scope.resolveSteps place position entries = .ok steps → EachAt P place position steps
  | [], steps, h => by
    rw [Scope.resolveSteps] at h
    cases h
    trivial
  | entry :: entries, steps, h => by
    rw [Scope.resolveSteps] at h
    obtain ⟨first, hfirst, h⟩ := bind_eq_ok_iff.1 h
    obtain ⟨others, hothers, h⟩ := bind_eq_ok_iff.1 h
    cases h
    exact ⟨hP.resolve _ entry first hfirst,
      hP.resolveSteps place (position + 1) entries others hothers⟩

theorem resolveBranches (hP : scope.Reads P) (place : Place) (position : Nat) :
    ∀ (entries : List Json) (branches : List Branch),
      scope.resolveBranches place position entries = .ok branches →
        EachAt (Branch.ReadIn scope P) place position branches
  | [], branches, h => by
    rw [Scope.resolveBranches] at h
    cases h
    trivial
  | entry :: entries, branches, h => by
    rw [Scope.resolveBranches] at h
    obtain ⟨first, hfirst, h⟩ := bind_eq_ok_iff.1 h
    obtain ⟨others, hothers, h⟩ := bind_eq_ok_iff.1 h
    cases h
    exact ⟨hP.resolveBranch _ entry first hfirst,
      hP.resolveBranches place (position + 1) entries others hothers⟩

theorem resolveBranch (hP : scope.Reads P) (place : Place) : ∀ (entry : Json) (branch : Branch),
    scope.resolveBranch place entry = .ok branch → branch.ReadIn scope P place
  | .string name, branch, h => by
    rw [Scope.resolveBranch] at h
    obtain ⟨target, htarget, h⟩ := bind_eq_ok_iff.1 h
    cases h
    exact ⟨hP.bare place name target (reference_eq_ok_iff.1 htarget), by rintro _ ⟨⟩⟩
  | .array items, branch, h => by
    have hwhole := hP.resolveItems place items
    match items, hwhole, h with
    | .string head :: rest, hwhole, h =>
      by_cases hmeant : ((scope.class? head).isSome || scope.commands.contains head) = true
      · rw [resolveBranch_of_meant hmeant] at h
        obtain ⟨step, hstep, rfl⟩ := map_eq_ok_iff.1 h
        exact ⟨hwhole step hstep, by rintro _ ⟨⟩⟩
      · rw [resolveBranch_of_not_meant hmeant] at h
        obtain ⟨step, hstep, rfl⟩ := map_eq_ok_iff.1 h
        have hfree : scope.class? head = none ∧ scope.commands.contains head = false := by
          simpa using hmeant
        refine ⟨?_, by rintro _ ⟨⟩; exact hfree⟩
        match rest, hstep with
        | [], hstep => cases hstep
        | [entry], hstep => exact hP.resolve place entry step hstep
        | entry :: next :: others, hstep =>
          exact hP.resolveItems place (entry :: next :: others) step hstep
  | .null, _, h | .bool _, _, h | .number _, _, h | .object _, _, h => by
    simp [Scope.resolveBranch] at h

/-- What a listener runs has it inside the place of the listener. -/
theorem resolveListened (hP : scope.Reads P) (place : Place) : ∀ (args : List Json) (step : Step),
    scope.resolveListened place args = .ok step → P (0 :: place) step
  | [.object entries], step, h => by
    rw [Scope.resolveListened] at h
    exact hP.resolveField place entries step h
  | [.array (_ :: _ :: _ :: command :: _)], step, h => by
    rw [Scope.resolveListened] at h
    exact hP.resolve _ command step h

theorem resolveField (hP : scope.Reads P) (place : Place) :
    ∀ (entries : List (String × Json)) (step : Step),
      scope.resolveField place entries = .ok step → P (0 :: place) step
  | [], _, h => by
    simp [Scope.resolveField] at h
  | (field, value) :: entries, step, h => by
    rw [Scope.resolveField] at h
    split at h
    · exact hP.resolve _ value step h
    · exact hP.resolveField place entries step h

end

/-! ### Declarations -/

/-- A command that is put together has the class that was asked for, and a body that was read. -/
theorem construct (hP : scope.Reads P) {tag : ClassTag} {classAlias name : String}
    {args : List Json} {command : Command}
    (h : scope.construct place tag classAlias name args = .ok command) :
    ∃ body, command = ⟨name, classAlias, body⟩ ∧ body.classTag = tag ∧
      body.ReadIn scope P place := by
  unfold Scope.construct at h
  obtain ⟨body, hbody, h⟩ := bind_eq_ok_iff.1 h
  cases h
  obtain ⟨htag, hread⟩ := body_readIn (hP.resolveSteps place 0 args)
    (hP.resolveBranches place 0 args) (hP.resolveListened place args) hbody
  exact ⟨body, rfl, htag, hread⟩

/-- A declaration starts with a class name and a name, and it leads to a command of that class and
name. Its place is its number. -/
theorem declared (hP : scope.Reads P) {entry : Json} {command : Command}
    (h : scope.declared entry = .ok command) :
    ∃ head name args body, entry = .array (.string head :: .string name :: args) ∧ name ≠ "" ∧
      command = ⟨name, head, body⟩ ∧ scope.class? head = some body.classTag ∧
      body.ReadIn scope P [scope.commands.size] := by
  unfold Scope.declared at h
  split at h
  · rename_i head rest
    split at h
    · cases h
    · rename_i tag hclass
      split at h
      · rename_i name args
        by_cases hname : name = ""
        · simp [hname] at h
        · simp only [String.isEmpty_iff, hname, if_false] at h
          obtain ⟨body, hcommand, htag, hread⟩ := hP.construct h
          exact ⟨head, name, args, body, rfl, hname, hcommand, htag ▸ hclass, hread⟩
      · cases h
  · cases h
  · cases h

end Reads

end Scope

end CommandBot
