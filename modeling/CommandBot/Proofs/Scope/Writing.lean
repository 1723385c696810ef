import CommandBot.Proofs.Scope.Expressible
import CommandBot.Proofs.Scope.Growth

namespace CommandBot

namespace Scope

variable {scope : Scope}

theorem Holds.reference {target : Command} (h : scope.Holds target) :
    scope.reference target.name = .ok target :=
  reference_eq_ok_iff.2 h

theorem Holds.contains {target : Command} (h : scope.Holds target) :
    scope.commands.contains target.name = true := by
  rw [Table.contains, h]
  rfl

theorem argumentTexts_map (command : String) (args : List String) :
    argumentTexts command (args.map .string) = .ok args := by
  induction args with
  | nil => rfl
  | cons arg args ih =>
    rw [List.map_cons, argumentTexts, ih]
    rfl

/-- An alias whose arguments are words is written and read again. An argument that is no word would
be cut into several. -/
theorem shorthandBody_arguments {target : Command} {fixed : List String} (h : scope.Holds target)
    (hfixed : ∀ arg ∈ fixed, Text.IsWord arg) :
    scope.shorthandBody (.string target.name :: fixed.map .string) =
      .ok (.shorthand target fixed) := by
  rw [shorthandBody, argumentTexts_map, h.reference]
  exact congrArg (fun fixed => Except.ok (Body.shorthand target fixed))
    (Text.flatMap_words_eq_self hfixed)

/-- The fields of a listener are read as they were written. -/
theorem ofJson_fields (spec : Listener) :
    ListenerFields.ofJson (.object spec.fields) =
      .ok ⟨spec.trigger, spec.user, spec.temporary⟩ := by
  obtain ⟨place, trigger, user, temporary, step⟩ := spec
  cases user <;> rfl

/-- What a listener runs is found in its field and read inside its place. -/
theorem resolveListened_fields (place : Place) (spec : Listener) :
    scope.resolveListened place [.object spec.fields] =
      scope.resolve (0 :: place) spec.step.entry := by
  obtain ⟨_, trigger, user, temporary, step⟩ := spec
  simp [resolveListened, Listener.fields, resolveField]

/-- A listener with a trigger is written and read again, at the place of its new entry. -/
theorem listenerBody_fields {place : Place} {name : String} {spec : Listener}
    {listened : Unit → Except Error Step} {step : Step} (htrigger : spec.trigger ≠ "")
    (hstep : listened () = .ok step) :
    listenerBody place name [.object spec.fields] listened =
      .ok (.listener ⟨place, spec.trigger, spec.user, spec.temporary, step⟩) := by
  have hempty : ¬ spec.trigger.isEmpty = true := by simpa using htrigger
  simp only [listenerBody, ofJson_fields, if_neg hempty, hstep]
  rfl

/-- A branch without a selector is read as its step: its entry is a name, or an array that starts
with a word that means something. -/
theorem resolveBranch_entry {place : Place} {step : Step} (h : step.ExpressibleIn scope) :
    scope.resolveBranch place step.entry = Branch.mk none <$> scope.resolve place step.entry := by
  cases step with
  | reference target leading =>
    obtain ⟨htarget, _⟩ := h
    cases leading with
    | nil =>
      rw [Step.entry, resolveBranch, resolve, htarget.reference]
      rfl
    | cons arg args =>
      change scope.resolveBranch place (.array (.string target.name :: (arg :: args).map .string)) =
        Branch.mk none <$>
          scope.resolveItems place (.string target.name :: (arg :: args).map .string)
      exact resolveBranch_of_meant (by simp [htarget.contains])
  | inline command =>
    obtain ⟨name, classAlias, body⟩ := command
    obtain ⟨_, hclass, _⟩ := h
    rw [Step.entry, resolve]
    exact resolveBranch_of_meant (by simp [hclass])

mutual

/-- The entry of a step resolves to the step, by induction down its tree. -/
theorem resolve_entry (place : Place) : ∀ step : Step, step.ExpressibleIn scope →
    scope.resolve place step.entry = .ok (step.placed place)
  | .reference target [], ⟨htarget, _⟩ => by
    rw [Step.entry, resolve, htarget.reference]
    rfl
  | .reference target (arg :: args), ⟨htarget, hclass⟩ => by
    have htexts := argumentTexts_map target.name (arg :: args)
    change scope.resolveItems place (.string target.name :: (arg :: args).map .string) = _
    rw [resolveItems, hclass (List.cons_ne_nil arg args), htarget.reference, htexts]
    rfl
  | .inline ⟨_, classAlias, body⟩, ⟨rfl, hclass, hbody⟩ => by
    rw [Step.entry, resolve, resolveItems_of_class hclass, body_arguments place body hbody]
    rfl

theorem body_arguments (place : Place) : ∀ body : Body, body.ExpressibleIn scope →
    scope.body place body.classTag "" body.arguments (scope.parts place body.arguments) =
      .ok (body.placed place)
  | .echo _, _ | .file _, _ | .info _, _ | .format _, _ => rfl
  | .shorthand target fixed, ⟨htarget, hfixed⟩ => shorthandBody_arguments htarget hfixed
  | .state key, hkey => if_neg (by simpa [Body.ExpressibleIn] using hkey)
  | .sequence steps, hsteps =>
    congrArg (Body.sequence <$> ·) (resolveSteps_entries place 0 steps hsteps)
  | .option branches, hbranches =>
    congrArg (Body.option <$> ·) (resolveBranches_entries place 0 branches hbranches)
  | .listener ⟨_, trigger, user, temporary, step⟩, ⟨htrigger, hstep⟩ => by
    apply listenerBody_fields htrigger
    exact (resolveListened_fields place _).trans (resolve_entry (0 :: place) step hstep)

/-- Steps are read again one by one, each at its position. -/
theorem resolveSteps_entries (place : Place) (position : Nat) : ∀ steps : List Step,
    Step.AllExpressibleIn scope steps →
      scope.resolveSteps place position (Step.entries steps) =
        .ok (Step.allPlaced place position steps)
  | [], _ => rfl
  | step :: steps, ⟨hstep, hsteps⟩ => by
    rw [Step.entries, resolveSteps, resolve_entry (position :: place) step hstep,
      resolveSteps_entries place (position + 1) steps hsteps]
    rfl

theorem resolveBranches_entries (place : Place) (position : Nat) : ∀ branches : List Branch,
    Branch.AllExpressibleIn scope branches →
      scope.resolveBranches place position (Branch.entries branches) =
        .ok (Branch.allPlaced place position branches)
  | [], _ => rfl
  | ⟨none, step⟩ :: branches, ⟨⟨_, hstep⟩, hbranches⟩ => by
    rw [Branch.entries, resolveBranches, Branch.entry, resolveBranch_entry hstep,
      resolve_entry (position :: place) step hstep,
      resolveBranches_entries place (position + 1) branches hbranches]
    rfl
  | ⟨some selector, step⟩ :: branches, ⟨⟨hselector, hstep⟩, hbranches⟩ => by
    have hunused := hselector selector rfl
    rw [Branch.entries, resolveBranches, Branch.entry,
      resolveBranch_of_not_meant (by simp [hunused.1, hunused.2]), resolveKeyed,
      resolve_entry (position :: place) step hstep,
      resolveBranches_entries place (position + 1) branches hbranches]
    rfl

end

/-! ### What entries resolve to -/

theorem allExpressibleIn_of_each {place : Place} {position : Nat} {steps : List Step}
    (h : EachAt (fun _ => Step.ExpressibleIn scope) place position steps) :
    Step.AllExpressibleIn scope steps := by
  induction steps generalizing position with
  | nil => trivial
  | cons step steps ih => exact ⟨h.1, ih h.2⟩

theorem allExpressibleIn_of_each_branch {place : Place} {position : Nat} {branches : List Branch}
    (h : EachAt (Branch.ReadIn scope fun _ => Step.ExpressibleIn scope) place position branches) :
    Branch.AllExpressibleIn scope branches := by
  induction branches generalizing position with
  | nil => trivial
  | cons branch branches ih =>
    obtain ⟨selector, step⟩ := branch
    obtain ⟨⟨hstep, hselector⟩, hlater⟩ := h
    exact ⟨⟨hselector, hstep⟩, ih hlater⟩

/-- What stands in a scope under a name stands there under its own. -/
theorem Named.holds (hnamed : scope.Named) {name : String} {target : Command}
    (hget : scope.commands.get? name = some target) : target.name = name ∧ scope.Holds target :=
  ⟨(hnamed name target hget).1, hnamed.get?_name hget⟩

/-- What is read from steps that can be expressed can be expressed. -/
theorem Named.body_expressibleIn (hnamed : scope.Named) {place : Place} {body : Body}
    (h : body.ReadIn scope (fun _ => Step.ExpressibleIn scope) place) :
    body.ExpressibleIn scope := by
  cases body with
  | shorthand target fixed =>
    obtain ⟨⟨name, hget⟩, args, rfl⟩ := h
    refine ⟨(hnamed.holds hget).2, ?_⟩
    intro word hword
    obtain ⟨arg, _, hword⟩ := List.mem_flatMap.1 hword
    exact Text.isWord_of_mem_words hword
  | sequence steps => exact allExpressibleIn_of_each h
  | option branches => exact allExpressibleIn_of_each_branch h
  | state key => exact h
  | listener spec =>
    obtain ⟨_, trigger, _, _, step⟩ := spec
    obtain ⟨htrigger, _, hstep⟩ := h
    exact ⟨htrigger, hstep⟩
  | echo | file | info | format => trivial

/-- Each of the three ways to write a step leads to a step that can be expressed. A name with
arguments behind it was looked up as a class name first. -/
theorem Named.reads_expressibleIn (hnamed : scope.Named) :
    scope.Reads (fun _ => Step.ExpressibleIn scope) where
  bare _ name target hget := ⟨(hnamed.holds hget).2, fun hne => absurd rfl hne⟩
  applied _ name target args hclass hget := by
    obtain ⟨hname, hholds⟩ := hnamed.holds hget
    refine ⟨hholds, fun _ => ?_⟩
    rw [hname]
    exact hclass
  inline _ _ _ hclass hread := ⟨rfl, hclass, hnamed.body_expressibleIn hread⟩

/-! ### Steps that were read at a place -/

theorem allPlaced_of_each {place : Place} {position : Nat} {steps : List Step}
    (h : EachAt (fun place step => step.placed place = step) place position steps) :
    Step.allPlaced place position steps = steps := by
  induction steps generalizing position with
  | nil => rfl
  | cons step steps ih => rw [Step.allPlaced, h.1, ih h.2]

theorem allPlaced_of_each_branch {place : Place} {position : Nat} {branches : List Branch}
    (h : EachAt (Branch.ReadIn scope fun place step => step.placed place = step) place position
      branches) :
    Branch.allPlaced place position branches = branches := by
  induction branches generalizing position with
  | nil => rfl
  | cons branch branches ih =>
    obtain ⟨selector, step⟩ := branch
    obtain ⟨⟨hstep, _⟩, hlater⟩ := h
    dsimp only at hstep
    rw [Branch.allPlaced, Branch.placed, hstep, ih hlater]

/-- A step that was read at a place stands there. -/
theorem reads_placed (scope : Scope) :
    scope.Reads (fun place step => step.placed place = step) where
  bare _ _ _ _ := rfl
  applied _ _ _ _ _ _ := rfl
  inline place head body _ hread := by
    suffices hbody : body.placed place = body by rw [Step.placed, hbody]
    cases body with
    | sequence steps => exact congrArg Body.sequence (allPlaced_of_each hread)
    | option branches => exact congrArg Body.option (allPlaced_of_each_branch hread)
    | listener spec =>
      obtain ⟨_, trigger, user, temporary, step⟩ := spec
      obtain ⟨_, rfl, hstep⟩ := hread
      dsimp only at hstep
      rw [Body.placed, Listener.placed, hstep]
    | shorthand | echo | state | file | info | format => rfl

/-! ### The main statement -/

/-- The scopes that come about: class names alone, and then commands registered one by one. -/
inductive Built : Scope → Prop
  | ofClasses (classes : ClassNames) : Built (.ofClasses classes)
  | register {scope later : Scope} {command : Command} :
    Built scope → (scope.register command).result = .ok later → Built later

/-- However a scope has come about, its commands stand under their own names. -/
theorem Built.named {scope : Scope} (h : scope.Built) : scope.Named := by
  induction h with
  | ofClasses classes => exact named_ofClasses classes
  | register _ hregister ih => exact ih.register hregister

/-- Entries express the steps of a scope, and no others. A step that the scope can express has an
entry, which resolves to that step: to the same names, arguments and selectors, and to references to
the very same commands; only its listeners stand where the entry is written. And every step that an
entry resolves to can be expressed, by an entry that resolves to the very same step. -/
theorem entries_express_steps (hbuilt : scope.Built) (place : Place) :
    (∀ step : Step, step.ExpressibleIn scope →
      scope.resolve place step.entry = .ok (step.placed place) ∧
        (step.placed place).content = step.content) ∧
      ∀ (entry : Json) (step : Step), scope.resolve place entry = .ok step →
        step.ExpressibleIn scope ∧ scope.resolve place step.entry = .ok step := by
  constructor
  · intro step hstep
    exact ⟨resolve_entry place step hstep, step.content_placed place⟩
  · intro entry step hresolve
    have hstep : step.ExpressibleIn scope :=
      hbuilt.named.reads_expressibleIn.resolve place entry step hresolve
    have hplaced : step.placed place = step :=
      scope.reads_placed.resolve place entry step hresolve
    refine ⟨hstep, ?_⟩
    rw [resolve_entry place step hstep, hplaced]

/-- A scope with a short name for options and one command. -/
def greeting : Command := ⟨"hello", "InfoCommand", .info "hello!"⟩
def spoken : Scope := ⟨Table.empty.insert "Pick" .option, Table.empty.insert "hello" greeting⟩

/-- An option with a selector of its own, a listener and an alias in place. -/
def choice : Step :=
  .inline ⟨"", "Pick", .option [⟨some "loud", .reference greeting ["there"]⟩,
    ⟨none, .inline ⟨"", "ListenerCommand", .listener ⟨[7], "gg", none, true,
      .reference greeting []⟩⟩⟩,
    ⟨none, .inline ⟨"", "AliasCommand", .shorthand greeting ["you", "all"]⟩⟩]⟩

/-- The option is written and read again; the listener, which stood at another place, now stands in
the second branch. -/
theorem spoken_choice :
    spoken.Built ∧ choice.ExpressibleIn spoken ∧
      spoken.resolve [0] choice.entry = .ok (choice.placed [0]) ∧
      (choice.placed [0]).content = choice.content := by
  have hregister : ((ofClasses spoken.classes).register greeting).result = .ok spoken := rfl
  have hbuilt : spoken.Built := .register (.ofClasses spoken.classes) hregister
  have hgreeting : spoken.Holds greeting := rfl
  have hloud : spoken.Unused "loud" := by
    constructor <;> decide +kernel
  have hwords : ∀ arg ∈ ["you", "all"], Text.IsWord arg := by
    decide +kernel
  have hnone : ∀ word, none = some word → spoken.Unused word := by
    rintro word ⟨⟩
  have hchoice : choice.ExpressibleIn spoken := by
    refine ⟨rfl, by decide +kernel, ⟨?_, hgreeting, ?_⟩, ⟨hnone, rfl, ?_, ?_⟩,
      ⟨hnone, rfl, ?_, hgreeting, hwords⟩, trivial⟩
    · rintro word ⟨⟩
      exact hloud
    · intro _
      decide +kernel
    · decide +kernel
    · exact ⟨by decide +kernel, hgreeting, fun hne => absurd rfl hne⟩
    · decide +kernel
  obtain ⟨hwrite, hcontent⟩ := (entries_express_steps hbuilt [0]).1 choice hchoice
  exact ⟨hbuilt, hchoice, hwrite, hcontent⟩

end Scope

end CommandBot
