import CommandBot.Proofs.Run.Failure
import CommandBot.Session

namespace CommandBot.Session

variable {session : Session} {user text name : String} {args : List String} {error : Error}

/-- A command that fails has done nothing else: there is nothing to undo. -/
theorem invoke_eq_error (h : (session.invoke user name args).result = .error error) :
    error.isFatal = false ∧ (session.invoke user name args).world = session.world ∧
      (session.invoke user name args).journal.effects = [.failed error] := by
  unfold invoke at h ⊢
  split at h
  · obtain ⟨⟨call, _, hfailure⟩, hworld, heffects⟩ :=
      Command.run_eq_error (Hooks.onStore_settles session.bot.hooks user) h
    exact ⟨Call.isFatal_failure? hfailure, hworld, heffects⟩
  · cases h

/-- A message whose command fails gets no lines for it, and the operator is told. -/
theorem dispatch_of_error (hread : session.read? text = some ⟨name, args⟩)
    (h : (session.invoke user name args).result = .error error) :
    session.dispatch user text = ⟨.ok [], session.world,
      (session.invoke user name args).journal ++ [.reported (.command name user error)]⟩ := by
  obtain ⟨_, hworld, _⟩ := invoke_eq_error h
  unfold dispatch
  rw [hread]
  dsimp only
  unfold Outcome.settle
  rw [h]
  dsimp only
  rw [hworld]

/-- A failure changes nothing. Whatever the hooks are and whichever of them are armed, a command
that fails does so with an error that ends one invocation only, and leaves the store, the listeners
and the files as they were: that it fails is all that happens. So a message whose command fails says
what the listeners say that hear it, and leaves the session as they do; the failure is told to the
operator. -/
theorem failed_command_changes_nothing :
    (∀ (armed : Hooks) (user : String) (command : Command) (args : List String) (world : World)
        (error : Error),
      let outcome := command.run (armed.onStore user) args world
      outcome.result = .error error →
        error.isFatal = false ∧ outcome.world = world ∧
          outcome.journal.effects = [.failed error]) ∧
    ∀ (session : Session) (user text name : String) (args : List String) (error : Error),
      session.read? text = some ⟨name, args⟩ → session.drops user text = false →
      (session.invoke user name args).result = .error error →
        let heard := notify session.bot.hooks user (Text.without '\r' text) session.world
        session.handle user text = ⟨{ session with world := heard.world }, heard.lines,
          (session.invoke user name args).journal ++ .reported (.command name user error) ::
            heard.journal⟩ := by
  constructor
  · intro armed user command args world error outcome hresult
    obtain ⟨⟨call, _, hfailure⟩, hworld, heffects⟩ :=
      Command.run_eq_error (armed.onStore_settles user) hresult
    exact ⟨Call.isFatal_failure? hfailure, hworld, heffects⟩
  · intro session user text name args error hread hdrops hresult
    have hdispatch := dispatch_of_error hread hresult
    have hadmitted : ¬ session.drops user text = true := by simp [hdrops]
    rw [handle, if_neg hadmitted]
    dsimp only
    rw [hdispatch]
    simp [Outcome.lines]

/-- A session with a command that fails two commands further on, for want of a target, and with a
temporary listener. -/
def faulty : Session where
  bot :=
    let say : Command := ⟨"say", "EchoCommand", .echo ""⟩
    let pick : Command := ⟨"pick", "OptionCommand", .option [⟨some "one", .reference say ["hi"]⟩]⟩
    { commands := .ofList [("go", ⟨"go", "AliasCommand", .shorthand pick ["one"]⟩)]
      restricted := []
      unrestricted := []
      approved := []
      store := .empty
      hooks := .empty
      mark := "!" }
  approved := []
  world := ⟨.empty, [⟨[3], "go", none, true, .inline ⟨"", "InfoCommand", .info "heard"⟩⟩], .empty⟩

/-- The listener is heard, and detached, though the command of the message fails. -/
theorem faulty_go :
    (faulty.invoke "viewer" "go" ["now"]).result = .error (.unknownTarget "say") ∧
      (faulty.invoke "viewer" "go" ["now"]).world = faulty.world ∧
      (faulty.handle "viewer" "!go now").lines = ["heard"] ∧
      (faulty.handle "viewer" "!go now").session.world = ⟨.empty, [], .empty⟩ := by
  have hread : faulty.read? "!go now" = some ⟨"go", ["now"]⟩ := by decide +kernel
  have hdrops : faulty.drops "viewer" "!go now" = false := by decide +kernel
  have hfails : (faulty.invoke "viewer" "go" ["now"]).result = .error (.unknownTarget "say") := by
    rfl
  obtain ⟨hruns, hmessages⟩ := failed_command_changes_nothing
  have hhandle := hmessages faulty "viewer" "!go now" "go" ["now"] _ hread hdrops hfails
  obtain ⟨_, hworld, _⟩ := hruns _ _ _ _ _ _ hfails
  refine ⟨hfails, hworld, ?_, ?_⟩
  · rw [hhandle]
    decide +kernel
  · rw [hhandle]
    rfl

end CommandBot.Session
