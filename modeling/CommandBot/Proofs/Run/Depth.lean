import CommandBot.Proofs.Session.Attached

namespace CommandBot

/-- What an event does to the number of running commands. -/
def Event.calls : Event → Int
  | .entered _ => 1
  | .left => -1
  | _ => 0

namespace Journal

/-- The number of commands that are running after a stretch of a journal, those that were running
before it left aside. -/
def calls : Journal → Int
  | [] => 0
  | event :: journal => event.calls + calls journal

@[simp] theorem calls_nil : calls [] = 0 := rfl

@[simp] theorem calls_cons (event : Event) (journal : Journal) :
    calls (event :: journal) = event.calls + calls journal := rfl

@[simp] theorem calls_append (journal later : Journal) :
    calls (journal ++ later) = calls journal + calls later := by
  induction journal with
  | nil => simp
  | cons event journal ih =>
    rw [List.cons_append, calls_cons, calls_cons, ih]
    omega

/-- Every command that starts in the journal is left in it, none is left that did not start, and no
more than `limit` commands run inside one another. -/
structure Nests (limit : Nat) (journal : Journal) : Prop where
  bounded : ∀ part, part <+: journal → 0 ≤ calls part ∧ calls part ≤ limit
  closed : calls journal = 0

/-- A stretch from the start of two journals ends in the first or goes on into the second. -/
theorem prefix_append_cases {journal later part : Journal} (h : part <+: journal ++ later) :
    part <+: journal ∨ ∃ rest, rest <+: later ∧ part = journal ++ rest := by
  obtain ⟨tail, htail⟩ := h
  rcases List.append_eq_append_iff.1 htail with ⟨rest, hjournal, _⟩ | ⟨rest, hpart, hlater⟩
  · exact .inl ⟨rest, hjournal.symm⟩
  · exact .inr ⟨rest, ⟨tail, hlater.symm⟩, hpart⟩

variable {limit : Nat}

theorem nests_nil : Nests limit [] where
  bounded := by
    intro part hpart
    rw [List.prefix_nil.1 hpart]
    simp
  closed := rfl

theorem Nests.mono {journal : Journal} {more : Nat} (h : Nests limit journal)
    (hle : limit ≤ more) : Nests more journal where
  bounded := by
    intro part hpart
    obtain ⟨hlow, hhigh⟩ := h.bounded part hpart
    omega
  closed := h.closed

/-- Journals one after the other nest to the depth of the deeper one, since the first one leaves all
that it starts. -/
theorem Nests.append {journal later : Journal} (h : Nests limit journal)
    (hlater : Nests limit later) : Nests limit (journal ++ later) where
  bounded := by
    intro part hpart
    rcases prefix_append_cases hpart with hpart | ⟨rest, hrest, rfl⟩
    · exact h.bounded part hpart
    · rw [calls_append, h.closed, Int.zero_add]
      exact hlater.bounded rest hrest
  closed := by rw [calls_append, h.closed, hlater.closed, Int.add_zero]

/-- An event that is neither a start nor an end may stand anywhere. -/
theorem Nests.cons {journal : Journal} {event : Event} (hevent : event.calls = 0)
    (h : Nests limit journal) : Nests limit (event :: journal) where
  bounded := by
    intro part hpart
    rcases List.prefix_cons_iff.1 hpart with rfl | ⟨rest, rfl, hrest⟩
    · simp
    · rw [calls_cons, hevent, Int.zero_add]
      exact h.bounded rest hrest
  closed := by rw [calls_cons, hevent, h.closed, Int.add_zero]

theorem nests_singleton {event : Event} (hevent : event.calls = 0) : Nests limit [event] :=
  nests_nil.cons hevent

/-- One command around what runs inside it takes one more level. -/
theorem Nests.within {journal : Journal} (command : String) (h : Nests limit journal) :
    Nests (limit + 1) (.entered command :: journal ++ [.left]) where
  bounded := by
    intro part hpart
    rw [List.cons_append] at hpart
    rcases List.prefix_cons_iff.1 hpart with rfl | ⟨inner, rfl, hinner⟩
    · rw [calls_nil]
      omega
    · rw [calls_cons, Event.calls]
      rcases prefix_append_cases hinner with hinner | ⟨rest, hrest, rfl⟩
      · obtain ⟨hlow, hhigh⟩ := h.bounded inner hinner
        omega
      · rw [calls_append, h.closed]
        rcases List.prefix_cons_iff.1 hrest with rfl | ⟨tail, rfl, htail⟩
        · rw [calls_nil]
          omega
        · rw [List.prefix_nil.1 htail, calls_cons, calls_nil, Event.calls]
          omega
  closed := by
    simp [h.closed, Event.calls]

end Journal

/-- Commands nest to the depth of what runs, on top of what storing a value sets off. A tree bounds
what runs inside it until a value is stored; there a hook may start a tree anew, but with one key
fewer to start hooks. -/
def Effect.nests (limit depth : Nat) (_ : World) (journal : Journal) (_ : World) : Prop :=
  journal.Nests (limit + depth)

/-- Nesting composes: a command adds one level to what runs in it, and steps add none to each other.
-/
theorem Effect.nests_composes (limit : Nat) : Effect.Composes (Effect.nests limit) where
  nothing _ := Journal.nests_nil
  note := by
    intro _ event hnote
    cases event with
    | failed error => exact Journal.nests_singleton rfl
    | reported report => exact Journal.nests_singleton rfl
    | _ => cases hnote
  append _ _ _ _ _ _ hfirst hlater := Journal.Nests.append hfirst hlater
  within command h := Journal.Nests.within command h
  mono hle h := Journal.Nests.mono h (Nat.add_le_add_left hle limit)

/-- A leaf nests no deeper than what storing a value sets off. A leaf that stores none runs nothing
at all. -/
theorem Effect.leaves_nest {limit : Nat} {onStore : OnStore} (leaves : List Body)
    (hstore : ∀ key args world, (onStore key args world).journal.Nests limit) :
    Effect.OfLeaves (Effect.nests limit) onStore leaves := by
  apply (Effect.nests_composes limit).ofLeaves
  · intro key _ args world
    exact hstore key args world
  · intro path _ content world files _
    exact Journal.nests_singleton rfl
  · intro spec _ world _
    exact Journal.nests_singleton rfl

theorem Outcome.settle_nests {limit : Nat} {outcome : Outcome} (report : Error → Report)
    (h : outcome.journal.Nests limit) : (outcome.settle report).journal.Nests limit := by
  have hhas : outcome.Has (Effect.nests limit) 0 outcome.world := h
  exact hhas.settle (Effect.nests_composes limit) report

/-- Each hook that starts has its key disarmed while it runs, so hooks add their height at most once
for each key that is still armed. -/
theorem Hooks.onStore_nests {height : Nat} (user : String) (armed : Hooks)
    (hheight : ∀ key step, armed.get? key = some step → step.height ≤ height)
    (key : String) (args : List String) (world : World) :
    (armed.onStore user key args world).journal.Nests (armed.size * height) := by
  induction armed using disarm_induction generalizing key args world with
  | h armed ih =>
    rw [onStore_eq]
    dsimp only
    split
    · exact Journal.nests_singleton rfl
    · rename_i step hfired
      obtain ⟨_, hget⟩ := fired?_eq_some hfired
      have hinner := ih key step hget fun other hooked hother =>
        hheight other hooked (get?_of_get?_erase hother).2
      have hrun := Step.run_has (Effect.nests_composes _) step (Effect.leaves_nest _ hinner)
        (Text.words (Text.unwords args)) (world.set key (Text.unwords args))
      have hbound : (armed.erase key).size * height + step.height ≤ armed.size * height := by
        have hstep := hheight key step hget
        have hsmaller := Nat.succ_le_of_lt (Table.size_erase_lt hget)
        have hmul := Nat.mul_le_mul_right height hsmaller
        rw [Nat.succ_mul] at hmul
        omega
      have hnests := Journal.Nests.mono hrun hbound
      exact Outcome.settle_nests _
        (((hnests.append (Journal.nests_singleton rfl)).cons rfl).cons rfl)

/-- All that a bot may be asked to run nests within one limit. -/
theorem Bot.has_nests (bot : Bot) (user : String) :
    bot.Has (Effect.nests (bot.hooks.size * bot.height)) bot.height user := by
  have hcomposes := Effect.nests_composes (bot.hooks.size * bot.height)
  have hstore := Hooks.onStore_nests user bot.hooks fun _ _ hget => Bot.hook_height_le hget
  constructor
  · intro name command hget args world
    have hrun := Command.run_has hcomposes command (Effect.leaves_nest _ hstore) args world
    exact hrun.mono hcomposes (Bot.command_height_le hget)
  · intro spec hspec args world
    have hrun := Step.run_has hcomposes spec.step (Effect.leaves_nest _ hstore) args world
    exact hrun.mono hcomposes (Bot.listener_height_le hspec)

namespace Session

/-- Every invocation ends, with a bound that no store, argument or user changes: each command that
starts is left again, and no more of them run inside one another than `(h + 1) * d`, where `h` is
the number of hooks and `d` the greatest height of a command, a hook or what a listener runs. The
hooks may set each other's keys in a cycle. The listeners of a session are always among those that
count for `d`, so the bound holds of all that a script ever sets off. -/
theorem invocations_nest (bot : Bot) :
    (∀ (approved : List String) (world : World) (user name : String) (args : List String),
      ((Session.mk bot approved world).invoke user name args).journal.Nests
        ((bot.hooks.size + 1) * bot.height)) ∧
    (∀ spec ∈ bot.listeners, ∀ (world : World) (user text : String),
      (spec.step.run (bot.hooks.onStore user) (Text.words text) world).journal.Nests
        ((bot.hooks.size + 1) * bot.height)) ∧
    ∀ (files : Files) (script : List Input),
      ((start bot files).play script).session.world.listeners ⊆ bot.listeners ∧
      ((start bot files).play script).journal.Nests ((bot.hooks.size + 1) * bot.height) := by
  have hcomposes := Effect.nests_composes (bot.hooks.size * bot.height)
  rw [Nat.succ_mul]
  refine ⟨?_, ?_, ?_⟩
  · intro approved world user name args
    exact invoke_has hcomposes (bot.has_nests user) name args
  · intro spec hspec world user text
    exact (bot.has_nests user).listener spec hspec (Text.words text) world
  · intro files script
    have hdetaches : Effect.Detaches (Effect.nests (bot.hooks.size * bot.height)) := by
      intro world kept _
      exact Journal.nests_nil
    have happroved (user : String) (world : World) :
        Effect.nests (bot.hooks.size * bot.height) 0 world [.approved user] world :=
      Journal.nests_singleton rfl
    have hstart : (start bot files).world.listeners ⊆ bot.listeners := List.nil_subset _
    exact play_has (start bot files) script hcomposes hdetaches bot.has_nests happroved hstart

/-- The listener of `circular`. -/
def circularSpec : Listener :=
  ⟨[0], "hit", none, false, .inline ⟨"", "StateCommand", .state "a"⟩⟩

/-- A bot with a listener, and with two hooks that store each other's keys. -/
def circular : Bot where
  commands := .ofList [("watch", ⟨"watch", "ListenerCommand", .listener circularSpec⟩)]
  restricted := []
  unrestricted := []
  approved := []
  store := .empty
  hooks := .ofList [("a", .inline ⟨"", "StateCommand", .state "b"⟩),
    ("b", .inline ⟨"", "StateCommand", .state "a"⟩)]
  mark := "!"

/-- The bound is reached: the listener's command runs, the hook that it starts, and the one that
this hook starts. -/
theorem circular_nests :
    let journal := (circularSpec.step.run (circular.hooks.onStore "viewer")
      (Text.words "hit me") ⟨.empty, [], .empty⟩).journal
    circularSpec ∈ circular.listeners ∧ journal.Nests 3 ∧ Journal.calls (journal.take 7) = 3 := by
  have hspec : circularSpec ∈ circular.listeners := List.mem_cons_self
  have hlimit : (circular.hooks.size + 1) * circular.height = 3 := by decide +kernel
  obtain ⟨_, hfired, _⟩ := invocations_nest circular
  have hnests := hfired circularSpec hspec ⟨.empty, [], .empty⟩ "viewer" "hit me"
  rw [hlimit] at hnests
  refine ⟨hspec, hnests, ?_⟩
  decide +kernel

end Session

end CommandBot
