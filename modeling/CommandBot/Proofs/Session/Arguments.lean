import CommandBot.Proofs.Hooks.Discipline
import CommandBot.Proofs.Run.Plan
import CommandBot.Proofs.Session.Reading

namespace CommandBot

mutual

/-- The arguments that are written in a command, at every depth: those that a reference puts before
the caller's, and those that a shorthand gives in their place. -/
def Command.ownArgs : Command → List String
  | ⟨_, _, body⟩ => body.ownArgs

def Body.ownArgs : Body → List String
  | .shorthand target fixed => fixed ++ target.ownArgs
  | .sequence steps => Step.ownArgsAll steps
  | .option branches => Branch.ownArgsAll branches
  | _ => []

def Step.ownArgs : Step → List String
  | .reference target leading => leading ++ target.ownArgs
  | .inline command => command.ownArgs

def Step.ownArgsAll : List Step → List String
  | [] => []
  | step :: steps => step.ownArgs ++ Step.ownArgsAll steps

def Branch.ownArgsAll : List Branch → List String
  | [] => []
  | ⟨_, step⟩ :: branches => step.ownArgs ++ Branch.ownArgsAll branches

end

/-! ### Arguments of calls -/

/-- A leaf is called with some of the command's own arguments, and behind them with the last of
those that are given. So every argument of a leaf is written in the command or comes from the
caller. -/
def Call.Carries (own given : List String) : Call → Prop
  | leaf _ args => ∃ fixed passed, args = fixed ++ passed ∧ fixed ⊆ own ∧ passed <:+ given
  | unselected .. => True

namespace Call.Carries

variable {own given : List String} {call : Call}

/-- More own arguments and a longer list of given ones may be allowed for. -/
theorem imp (h : call.Carries own given) {more : List String} (hown : own ⊆ more)
    {longer : List String} (hgiven : given <:+ longer) : call.Carries more longer := by
  cases call with
  | leaf command args =>
    obtain ⟨fixed, passed, hargs, hfixed, hpassed⟩ := h
    exact ⟨fixed, passed, hargs, List.Subset.trans hfixed hown, hpassed.trans hgiven⟩
  | unselected option word => trivial

theorem lead {leading : List String} (h : call.Carries own (leading ++ given)) :
    call.Carries (leading ++ own) given := by
  cases call with
  | leaf command args =>
    obtain ⟨fixed, passed, hargs, hfixed, before, hsplit⟩ := h
    have hown := List.Subset.trans hfixed (List.subset_append_right leading own)
    rcases List.append_eq_append_iff.1 hsplit with ⟨rest, rfl, rfl⟩ | ⟨rest, _, hgiven⟩
    · refine ⟨fixed ++ rest, given, by rw [hargs, List.append_assoc], ?_, List.suffix_refl _⟩
      refine List.append_subset.2 ⟨hown, ?_⟩
      exact List.Subset.trans (List.subset_append_right before rest) (List.subset_append_left ..)
    · exact ⟨fixed, passed, hargs, hown, rest, hgiven.symm⟩
  | unselected option word => trivial

end Call.Carries

mutual

/-- Every call of a command's plan carries its arguments. By induction down the tree, where each
part adds what is written in it. -/
theorem Command.plan_carries : ∀ (command : Command) (given : List String),
    ∀ call ∈ command.plan given, call.Carries command.ownArgs given
  | ⟨name, classAlias, body⟩, given => Body.plan_carries name classAlias body given

/-- A shorthand drops what is given and calls its target with arguments of its own; every other body
passes on what it gets. -/
theorem Body.plan_carries (name classAlias : String) : ∀ (body : Body) (given : List String),
    ∀ call ∈ body.plan name classAlias given, call.Carries body.ownArgs given
  | .shorthand target fixed, given => by
    intro call hcall
    have htarget := Command.plan_carries target fixed call hcall
    rw [← List.append_nil fixed] at htarget
    exact htarget.lead.imp (List.Subset.refl _) List.nil_suffix
  | .sequence steps, given => Step.planAll_carries given steps
  | .option branches, given => by
    cases given with
    | nil => simp [Body.plan, Call.Carries]
    | cons word rest =>
      simp only [Body.plan]
      cases Branch.select? branches word with
      | none => simp [Call.Carries]
      | some index =>
        intro call hcall
        have hbranch :=
          Branch.planAt_carries branches rest (.unselected name word) trivial index call hcall
        exact hbranch.imp (List.Subset.refl _) (List.suffix_cons word rest)
  | .echo _, given | .state _, given | .file _, given | .info _, given | .format _, given
  | .listener _, given => by
    simp only [Body.plan, List.mem_singleton, forall_eq]
    exact ⟨[], given, rfl, List.nil_subset _, List.suffix_refl _⟩

theorem Step.plan_carries : ∀ (step : Step) (given : List String),
    ∀ call ∈ step.plan given, call.Carries step.ownArgs given
  | .reference target leading, given => by
    intro call hcall
    exact (Command.plan_carries target (leading ++ given) call hcall).lead
  | .inline command, given => Command.plan_carries command given

theorem Step.planAll_carries (given : List String) : ∀ (steps : List Step),
    ∀ call ∈ Step.planAll given steps, call.Carries (Step.ownArgsAll steps) given
  | [] => by simp [Step.planAll]
  | step :: steps => by
    intro call hcall
    rw [Step.planAll] at hcall
    rcases List.mem_append.1 hcall with hcall | hcall
    · exact (Step.plan_carries step given call hcall).imp (List.subset_append_left ..)
        (List.suffix_refl _)
    · exact (Step.planAll_carries given steps call hcall).imp (List.subset_append_right ..)
        (List.suffix_refl _)

/-- An option takes its selector off the front of what is given. -/
theorem Branch.planAt_carries : ∀ (branches : List Branch) (given : List String) (missing : Call),
    missing.Carries [] given → ∀ index, ∀ call ∈ Branch.planAt given missing branches index,
      call.Carries (Branch.ownArgsAll branches) given
  | [], given, missing, hmissing, index => by
    simpa [Branch.planAt, Branch.ownArgsAll] using hmissing
  | ⟨_, step⟩ :: branches, given, missing, hmissing, index => by
    cases index with
    | zero =>
      intro call hcall
      exact (Step.plan_carries step given call hcall).imp (List.subset_append_left ..)
        (List.suffix_refl _)
    | succ index =>
      intro call hcall
      exact (Branch.planAt_carries branches given missing hmissing index call hcall).imp
        (List.subset_append_right ..) (List.suffix_refl _)

end

/-! ### Arguments of hooks -/

/-- The hook that storing a value starts runs on the words of the arguments. -/
theorem Hooks.run_state_of_fired {armed : Hooks} {key : String} {args : List String} {world : World}
    {step : Step} (h : armed.fired? world.store key (Text.unwords args) = some step)
    (user name classAlias : String) :
    (Command.mk name classAlias (.state key)).run (armed.onStore user) args world =
      (Hooks.around user key (world.store.get? key) (Text.unwords args)
        (step.run (Hooks.onStore (armed.erase key) user) (args.flatMap Text.words)
          (world.set key (Text.unwords args)))).within name := by
  rw [Command.run, Body.run, Hooks.onStore_eq]
  simp only [h, Text.words_unwords]

namespace Session

/-- What a user types behind the name of a command is words. -/
theorem isWord_of_read? {session : Session} {text name : String} {given : List String}
    (h : session.read? text = some ⟨name, given⟩) : ∀ word ∈ given, Text.IsWord word := by
  obtain ⟨_, _, _, hspells⟩ :=
    (Invocation.ofMessage?_eq_some_iff (return_notMem_without text)).1 h
  exact hspells.isWord

/-- Words survive being joined and split again. The words of joined texts are those of each text,
one after the other; a word is not empty and holds no blank, so words that are joined come back as
they were. Whichever hooks are armed, a state command runs the hook that it starts on the words of
its arguments. What a user types behind the name of a command are words. However a step passes words
on to its leaves, they come back as they were, behind those of the arguments that are written in the
step. -/
theorem hooks_receive_words :
    (∀ texts : List String, Text.words (Text.unwords texts) = texts.flatMap Text.words) ∧
    (∀ text : String, ∀ word ∈ Text.words text, Text.IsWord word) ∧
    (∀ args : List String, (∀ arg ∈ args, Text.IsWord arg) →
      Text.words (Text.unwords args) = args) ∧
    (∀ (armed : Hooks) (user name classAlias key : String) (args : List String) (world : World)
      (step : Step), armed.fired? world.store key (Text.unwords args) = some step →
        let value := Text.unwords args
        let words := args.flatMap Text.words
        let hooked := step.run (Hooks.onStore (armed.erase key) user) words (world.set key value)
        let outcome := (Command.mk name classAlias (.state key)).run (armed.onStore user) args world
        outcome.result = .ok hooked.lines ∧ outcome.world = hooked.world ∧
          outcome.journal.hookTrace = .stored key (world.store.get? key) value ::
            .hookStarted key user words :: hooked.journal.hookTrace ++ [.hookEnded key]) ∧
    (∀ (session : Session) (text name : String) (given : List String),
      session.read? text = some ⟨name, given⟩ → ∀ word ∈ given, Text.IsWord word) ∧
    ∀ (step : Step) (given : List String), (∀ word ∈ given, Text.IsWord word) →
      given.flatMap Text.words = given ∧
      ∀ (leaf : Command) (args : List String), .leaf leaf args ∈ step.plan given →
        ∃ fixed passed, args = fixed ++ passed ∧ fixed ⊆ step.ownArgs ∧ passed <:+ given ∧
          args.flatMap Text.words = fixed.flatMap Text.words ++ passed := by
  refine ⟨Text.words_unwords, ?_, ?_, ?_, ?_, ?_⟩
  · intro text word
    exact Text.isWord_of_mem_words
  · intro args hargs
    rw [Text.words_unwords, Text.flatMap_words_eq_self hargs]
  · intro armed user name classAlias key args world step hfired value words hooked outcome
    have hrun : outcome = _ := Hooks.run_state_of_fired hfired user name classAlias
    rw [hrun]
    refine ⟨Hooks.around_result _ _ _ _, Hooks.around_world _ _ _ _, ?_⟩
    rw [Outcome.within_hookTrace, Hooks.around_hookTrace, Text.words_unwords]
  · intro session text name given hread
    exact isWord_of_read? hread
  · intro step given hgiven
    refine ⟨Text.flatMap_words_eq_self hgiven, ?_⟩
    intro leaf args hcall
    obtain ⟨fixed, passed, rfl, hfixed, hpassed⟩ := step.plan_carries given _ hcall
    have hwords : ∀ word ∈ passed, Text.IsWord word :=
      fun word hword => hgiven word (hpassed.subset hword)
    refine ⟨fixed, passed, rfl, hfixed, hpassed, ?_⟩
    rw [List.flatMap_append, Text.flatMap_words_eq_self hwords]

/-- Two words that a user types, behind an argument of two words that is written in a step. -/
theorem titled_hook_words :
    let announce : Step := .inline ⟨"", "EchoCommand", .echo "announce"⟩
    let hooks : Hooks := .ofList [("title", announce)]
    let session : Session := start ⟨.empty, [], [], [], .empty, hooks, "!"⟩ .empty
    let title : Command := ⟨"title", "StateCommand", .state "title"⟩
    let given := ["Bros", "Melee"]
    let args := ["Super Smash", "Bros", "Melee"]
    let outcome := title.run (hooks.onStore "viewer") args session.world
    session.read? "!play \u3000Bros  Melee" = some ⟨"play", given⟩ ∧
      (∀ word ∈ given, Text.IsWord word) ∧ Text.words (Text.unwords given) = given ∧
      Call.leaf title args ∈ Step.plan (.reference title ["Super Smash"]) given ∧
      (∃ fixed passed, args = fixed ++ passed ∧
        fixed ⊆ Step.ownArgs (.reference title ["Super Smash"]) ∧ passed <:+ given ∧
          args.flatMap Text.words = fixed.flatMap Text.words ++ passed) ∧
      hooks.fired? session.world.store "title" (Text.unwords args) = some announce ∧
      outcome.result = .ok ["!announce Super Smash Bros Melee"] ∧
      outcome.journal.hookTrace = [.stored "title" none "Super Smash Bros Melee",
        .hookStarted "title" "viewer" ["Super", "Smash", "Bros", "Melee"], .hookEnded "title"] := by
  intro announce hooks session title given args outcome
  obtain ⟨_, _, hjoined, hhooked, hspoken, hpassed⟩ := hooks_receive_words
  have hread : session.read? "!play \u3000Bros  Melee" = some ⟨"play", given⟩ := by decide
  have hgiven := hspoken session _ _ given hread
  obtain ⟨_, hcarried⟩ := hpassed (.reference title ["Super Smash"]) given hgiven
  have hcall : Call.leaf title args ∈ Step.plan (.reference title ["Super Smash"]) given :=
    List.mem_singleton.2 rfl
  have hfired : hooks.fired? session.world.store "title" (Text.unwords args) = some announce := rfl
  obtain ⟨hresult, _, htrace⟩ :=
    hhooked hooks "viewer" "title" "StateCommand" "title" args session.world announce hfired
  exact ⟨hread, hgiven, hjoined given hgiven, hcall, hcarried title args hcall, hfired, hresult,
    htrace⟩

end Session

end CommandBot
