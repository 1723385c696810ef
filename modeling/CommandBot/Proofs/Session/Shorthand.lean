import CommandBot.Proofs.Document.Loaded
import CommandBot.Proofs.Scope.Writing
import CommandBot.Proofs.Session.Script

namespace CommandBot

/-- What the declaration of a command that stands for another one leads to. -/
theorem Scope.declared_shorthand {scope : Scope} {head name target : String} {rest : List String}
    {command : Command} (hclass : scope.class? head = some .shorthand)
    (h : scope.declared
      (.array (.string head :: .string name :: .string target :: rest.map .string)) =
        .ok command) :
    ∃ known, scope.commands.get? target = some known ∧
      command = ⟨name, head, .shorthand known (rest.flatMap Text.words)⟩ := by
  unfold Scope.declared at h
  simp only [hclass] at h
  by_cases hname : name.isEmpty
  · rw [if_pos hname] at h
    cases h
  · rw [if_neg hname] at h
    obtain ⟨body, hbody, h⟩ := bind_eq_ok_iff.1 h
    cases h
    obtain ⟨texts, htexts, hbody⟩ := bind_eq_ok_iff.1 hbody
    obtain ⟨known, hknown, hbody⟩ := bind_eq_ok_iff.1 hbody
    cases hbody
    rw [argumentTexts_map] at htexts
    cases htexts
    exact ⟨known, reference_eq_ok_iff.1 hknown, rfl⟩

/-- The command that was found when the document was read is the one that the bot holds. -/
theorem Document.Origin.get?_shorthand {entries : List (String × Json)} {classes : ClassNames}
    {scope : Scope} {bot : Bot} (h : Origin entries classes scope bot)
    {head name target : String} {rest : List String}
    (hclass : classes.lookup? head = some .shorthand)
    (hentry : .array (.string head :: .string name :: .string target :: rest.map .string) ∈
      declarations entries) :
    ∃ known, bot.commands.get? target = some known ∧
      bot.commands.get? name = some ⟨name, head, .shorthand known (rest.flatMap Text.words)⟩ := by
  obtain ⟨before, command, hextends, hdeclared, hget⟩ := exists_declared h.declared hentry
  have hmeans : before.class? head = some .shorthand := by
    rw [← hextends.class?_eq, Scope.class?, (extends_declareAll h.declared).classes]
    exact hclass
  obtain ⟨known, hknown, rfl⟩ := Scope.declared_shorthand hmeans hdeclared
  rw [h.commands]
  exact ⟨known, hextends.commands target known hknown, hget⟩

namespace Session

/-- Running a command that stands for another one is running that one, inside one more command. -/
theorem invoke_shorthand {session : Session} {name target classAlias : String} {known : Command}
    {fixed : List String} (htarget : session.bot.commands.get? target = some known)
    (hname : session.bot.commands.get? name = some ⟨name, classAlias, .shorthand known fixed⟩)
    (user : String) (args : List String) :
    session.invoke user name args = (session.invoke user target fixed).within name := by
  unfold invoke
  rw [hname, htarget]
  rfl

/-- A command that stands for another one is the same as typing its expansion. Take a document that
loads, and a declaration in it, wherever it stands, of a name for a target with any texts as its
arguments. In whichever state a session of the bot is, and whatever has been said in it since, to
run the name with any arguments comes to the same lines or the same error, and to the same values,
listeners and files, as to run what the target's name means now on the words of the texts joined by
spaces; only the course of the run has one command more. -/
theorem shorthand_runs_expansion {document : Json} {bot : Bot}
    (hload : (Document.load document).result = .ok bot) :
    ∃ entries value classes, document = .object entries ∧
      Table.find "classes" entries = some value ∧ ClassNames.ofJson value = .ok classes ∧
      ∀ (head name target : String) (rest : List String),
        classes.lookup? head = some .shorthand →
        .array (.string head :: .string name :: .string target :: rest.map .string) ∈
          Document.declarations entries →
        ∀ (opening : Session) (mark : String), opening.bot = bot.withMark mark →
          ∀ (script : List Input) (user : String) (args : List String),
            let session := (opening.play script).session
            let short := session.invoke user name args
            let typed := session.invoke user target (Text.words (Text.unwords rest))
            (∃ command, session.bot.commands.get? target = some command) ∧
              short.result = typed.result ∧ short.world = typed.world ∧
              short.journal = .entered name :: typed.journal ++ [.left] := by
  obtain ⟨entries, rfl, hentries⟩ := Document.load_eq_ok hload
  obtain ⟨classes, scope, horigin⟩ := Document.loadEntries_eq_ok hentries
  obtain ⟨value, hvalue, hclasses⟩ := horigin.names
  refine ⟨entries, value, classes, rfl, hvalue, hclasses, ?_⟩
  intro head name target rest hclass hentry opening mark hopening script user args session short
    typed
  obtain ⟨known, htarget, hname⟩ := horigin.get?_shorthand hclass hentry
  have hcommands : session.bot.commands = bot.commands := by
    rw [opening.play_bot script, hopening]
    rfl
  rw [← hcommands] at htarget hname
  have hexpansion : short = typed.within name := by
    rw [← Text.words_unwords] at hname
    exact invoke_shorthand htarget hname user args
  refine ⟨⟨known, htarget⟩, ?_, ?_, ?_⟩
  · rw [hexpansion]
    rfl
  · rw [hexpansion]
    rfl
  · rw [hexpansion]
    rfl

/-- A document in which a name stands for an option with a branch that stores a value. -/
def abbreviated : Json :=
  .object [("classes", .object [("Short", .string "AliasCommand")]), ("approved_users", .array []),
    ("restricted", .array []), ("public", .array []),
    ("commands", .array [
      .array [.string "StateCommand", .string "hp"],
      .array [.string "OptionCommand", .string "set", .string "hp"],
      .array [.string "Short", .string "heal", .string "set", .string " hp  full", .string "",
        .string "\u2003again "]])]

/-- After some messages the name still does what its expansion does, whatever it is given. -/
theorem abbreviated_heal :
    ∃ bot, (Document.load abbreviated).result = .ok bot ∧
      let session := ((start (bot.withMark "!") .empty).play [.message "a" "!set hp 3"]).session
      (session.invoke "b" "heal" ["x"]).world =
          (session.invoke "b" "set" (Text.words " hp  full  \u2003again ")).world ∧
        (session.invoke "b" "heal" ["x"]).world.store.get? "hp" = some "full again" := by
  have hchecked : (Document.load abbreviated).result.toOption.any (fun bot =>
      (((start (bot.withMark "!") .empty).play [.message "a" "!set hp 3"]).session.invoke "b" "heal"
        ["x"]).world.store.get? "hp" = some "full again") = true := by
    decide +kernel
  obtain ⟨bot, hload, hstored⟩ := exists_of_any_toOption hchecked
  obtain ⟨entries, value, classes, hentries, hvalue, hclasses, hexpands⟩ :=
    shorthand_runs_expansion hload
  cases hentries
  cases hvalue
  have hclass : classes.lookup? "Short" = some .shorthand := by
    cases hclasses
    decide
  have hsame := hexpands "Short" "heal" "set" [" hp  full", "", "\u2003again "] hclass
    (by simp [Document.declarations, Document.commandEntries, Document.accessEntries, Table.find])
    (start (bot.withMark "!") .empty) "!" rfl [.message "a" "!set hp 3"] "b" ["x"]
  obtain ⟨_, _, hworld, _⟩ := hsame
  exact ⟨bot, hload, hworld, of_decide_eq_true hstored⟩

end Session

end CommandBot
