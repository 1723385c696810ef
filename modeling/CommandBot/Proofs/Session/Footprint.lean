import CommandBot.Proofs.Run.Footprint
import CommandBot.Proofs.Session.Listening

namespace CommandBot

/-- What a run does to the store, whatever else it does. -/
def Effect.Keeps (keys : String → Prop) (world : World) (_ : Journal) (after : World) : Prop :=
  Store.Within keys world.store after.store

theorem Effect.keeps_composes (keys : String → Prop) :
    Effect.Composes fun _ => Effect.Keeps keys := by
  apply composes_of_marks
  · intro world
    exact Store.within_refl keys world.store
  · intro world event _
    exact Store.within_refl keys world.store
  · intro world command
    exact Store.within_refl keys world.store
  · intro world
    exact Store.within_refl keys world.store
  · intro before between after journal later hfirst hlater
    exact hfirst.trans hlater

/-- A leaf changes no key but the one that it stores under. -/
theorem Effect.keeps_allows (keys : String → Prop) (user : String) :
    Effect.Allows (Effect.Keeps keys) user fun leaf => ∀ key, leaf = .state key → keys key where
  stored key hkey value _ := Store.within_insert (hkey key rfl) value
  wrote _ _ _ world _ _ := Store.within_refl keys world.store
  attached _ _ world _ := Store.within_refl keys world.store
  started _ _ world := Store.within_refl keys world.store
  ended _ world := Store.within_refl keys world.store

/-- All that a loaded bot may come to is written in its document. -/
theorem Document.Origin.confined {entries : List (String × Json)} {classes : ClassNames}
    {scope : Scope} {bot : Bot} (h : Origin entries classes scope bot) :
    bot.Confined fun leaf => ∃ command ∈ bot.written, command.body = leaf := by
  obtain ⟨hcommands, hhooks, hparts⟩ := h.knows
  have hwritten {leaf : Body}
      (hleaf : ∃ command, scope.Knows bot.written command ∧ command.body = leaf) :
      ∃ command ∈ bot.written, command.body = leaf := by
    obtain ⟨command, hcommand, hbody⟩ := hleaf
    exact ⟨command, hcommand.written List.mem_cons_self, hbody⟩
  constructor
  · intro name command hget leaf hleaf
    exact hwritten (Command.exists_of_mem_leaves hparts command (hcommands name command hget) hleaf)
  · intro key step hget leaf hleaf
    exact hwritten (Step.exists_of_mem_leaves hparts step (hhooks key step hget) hleaf)
  · intro spec hspec leaf hleaf
    obtain ⟨command, hcommand, hbody⟩ := h.knows_listener hspec
    have hstep : scope.Knows bot.written spec.step.command := by
      apply hparts command hcommand
      rw [hbody]
      exact List.mem_cons_self
    exact hwritten (Step.exists_of_mem_leaves hparts spec.step hstep hleaf)

namespace Session

/-- No key is ever lost over a script, and new ones are those of state commands of the bot. -/
theorem play_keeps {keys : String → Prop} (session : Session) (script : List Input)
    (hbot : session.bot.Confined fun leaf => ∀ key, leaf = .state key → keys key)
    (hlisteners : session.world.listeners ⊆ session.bot.listeners) :
    Store.Within keys session.world.store (session.play script).session.world.store := by
  have hcomposes := Effect.keeps_composes keys
  have hdetaches : Effect.Detaches fun _ => Effect.Keeps keys := by
    intro world kept _
    exact Store.within_refl keys world.store
  have happroved (user : String) (world : World) :
      Effect.Keeps keys world [.approved user] world :=
    Store.within_refl keys world.store
  obtain ⟨_, hkeeps⟩ := play_has session script hcomposes hdetaches
    (fun user => hbot.has hcomposes (Effect.keeps_allows keys user)) happroved hlisteners
  exact hkeeps

/-- A run stays within its footprint. Whoever the user is and whichever hooks are armed, a command
or a step changes no values but those under the keys that it reaches, takes no key away, writes no
file and attaches no listener but those that it reaches. Unless the hook of a key leads to the key
again, a value that is stored under it is what it was given. In a bot that a document loads to, each
key that is there after a script was there at the start or is that of a state command which is
written in the document, and there are never fewer keys than before. -/
theorem effects_within_footprint :
    (∀ (hooks : Hooks) (user : String) (args : List String) (world : World),
      (∀ command : Command,
        let outcome := command.run (hooks.onStore user) args world
        Effect.Within (hooks.Reaches command.leaves) world outcome.journal outcome.world) ∧
      (∀ step : Step,
        let outcome := step.run (hooks.onStore user) args world
        Effect.Within (hooks.Reaches step.leaves) world outcome.journal outcome.world) ∧
      ∀ name classAlias key,
        (∀ step, hooks.get? key = some step → ¬ hooks.Reaches step.leaves (.state key)) →
          (Command.run (hooks.onStore user) ⟨name, classAlias, .state key⟩ args
            world).world.store.get? key = some (Text.unwords args)) ∧
    ∀ (document : Json) (bot : Bot), (Document.load document).result = .ok bot →
      ∀ (mark : String) (files : Files) (script : List Input),
        let session := ((start (bot.withMark mark) files).play script).session
        (∀ key, session.world.store.contains key = true →
          bot.store.contains key = true ∨ ∃ command ∈ bot.written, command.body = .state key) ∧
        ∀ more, session.world.store.size ≤ (session.play more).session.world.store.size := by
  constructor
  · intro hooks user args world
    refine ⟨fun command => command.run_within hooks user args world,
      fun step => step.run_within hooks user args world, ?_⟩
    intro name classAlias key hfree
    exact Hooks.get?_onStore hfree user args world
  · intro document bot hload mark files script session
    obtain ⟨entries, _, hentries⟩ := Document.load_eq_ok hload
    obtain ⟨classes, scope, horigin⟩ := Document.loadEntries_eq_ok hentries
    have hopening := orderly_start (bot.withMark mark) files
    obtain ⟨horderly, _⟩ := hopening.play script
    constructor
    · intro key hkey
      have hwritten : bot.Confined fun leaf => ∀ key, leaf = .state key →
          ∃ command ∈ bot.written, command.body = .state key := by
        refine horigin.confined.imp ?_
        rintro _ hleaf key rfl
        exact hleaf
      exact (play_keeps _ script (hwritten.withMark mark) hopening.own).contains hkey
    · intro more
      have hall : session.bot.Confined fun leaf => ∀ key, leaf = .state key → True :=
        ⟨by intros; trivial, by intros; trivial, by intros; trivial⟩
      exact (play_keeps session more hall horderly.own).size_le

/-- A document with a hook that stores another key than its own, and with a listener. -/
def scored : Json :=
  .object [("classes", .object []), ("approved_users", .array []), ("restricted", .array []),
    ("public", .array []), ("state", .object [("round", .string "1")]),
    ("commands", .array [
      .array [.string "StateCommand", .string "score"],
      .array [.string "ListenerCommand", .string "watch",
        .object [("trigger", .string "gg"),
          ("command", .array [.string "StateCommand", .string "said"])]]]),
    ("on_state_change", .object [("score", .array [.string "StateCommand", .string "last"])])]

/-- The listener has stored its key, which is written in the document, and a value whose hook stores
something else stands as it was given. -/
theorem scored_keys :
    let hooks : Hooks := .ofList [("score", .inline ⟨"", "StateCommand", .state "last"⟩)]
    let script : List Input := [.message "host" "!watch", .message "host" "gg all"]
    (Command.run (hooks.onStore "host") ⟨"score", "StateCommand", .state "score"⟩ ["7", "up"]
        ⟨.empty, [], .empty⟩).world.store.get? "score" = some "7 up" ∧
      ∃ bot, (Document.load scored).result = .ok bot ∧ bot.store.contains "said" = false ∧
        ((start (bot.withMark "!") .empty).play script).session.world.store.contains "said" = true ∧
        ∃ command ∈ bot.written, command.body = .state "said" := by
  intro hooks script
  obtain ⟨hruns, hscripts⟩ := effects_within_footprint
  constructor
  · obtain ⟨_, _, hstored⟩ := hruns hooks "host" ["7", "up"] ⟨.empty, [], .empty⟩
    apply hstored
    have hleaves (key : String) (step : Step) (hget : hooks.get? key = some step) :
        step.leaves = [.state "last"] := by
      cases List.mem_singleton.1 (Table.mem_of_find hget)
      rfl
    have hother : Body.state "score" ∉ [Body.state "last"] := by simp
    intro step hget hreaches
    cases hreaches with
    | own hleaf =>
      rw [hleaves _ _ hget] at hleaf
      exact hother hleaf
    | hooked _ hhook hleaf =>
      rw [hleaves _ _ hhook] at hleaf
      exact hother hleaf
  · have hchecked : (Document.load scored).result.toOption.any (fun bot =>
        !bot.store.contains "said" && ((start (bot.withMark "!") .empty).play
          script).session.world.store.contains "said") = true := by
      decide +kernel
    obtain ⟨bot, hload, hboth⟩ := exists_of_any_toOption hchecked
    simp only [Bool.and_eq_true, Bool.not_eq_true'] at hboth
    obtain ⟨hbefore, hafter⟩ := hboth
    obtain ⟨hkeys, _⟩ := hscripts scored bot hload "!" .empty script
    refine ⟨bot, hload, hbefore, hafter, ?_⟩
    rcases hkeys "said" hafter with hinitial | hwritten
    · rw [hbefore] at hinitial
      cases hinitial
    · exact hwritten

end Session

end CommandBot
