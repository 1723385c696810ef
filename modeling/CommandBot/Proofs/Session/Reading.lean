import CommandBot.Proofs.Text.Spelling
import CommandBot.Session
import CommandBot.Settings

namespace CommandBot

namespace Invocation

open Text (isBlank)

/-- A command that starts with no blank is read: its name is the word that it opens with. -/
theorem ofWords?_cons {c : Char} (hc : isBlank c = false) (cs : List Char) :
    ofWords? (c :: cs) =
      some ⟨String.ofList (c :: (Text.scanWords cs).1),
        (Text.scanWords cs).2.map String.ofList⟩ := by
  simp [ofWords?, Text.wordsOf, Text.scanWords, Text.closeWord, hc]

/-- Nothing is read exactly if the mark stands alone or before a blank. -/
theorem ofWords?_eq_none_iff {cs : List Char} :
    ofWords? cs = none ↔ cs = [] ∨ ∃ c more, cs = c :: more ∧ isBlank c = true := by
  cases cs with
  | nil => simp [ofWords?]
  | cons c cs =>
    cases hc : isBlank c with
    | true => simp [ofWords?, hc]
    | false => simp [ofWords?_cons hc, hc]

/-- What is read is what is spelled, where there are no carriage returns. -/
theorem ofWords?_eq_some_iff {cs : List Char} (h : '\r' ∉ cs) {invocation : Invocation} :
    ofWords? cs = some invocation ↔
      Text.IsWord invocation.name ∧
        ∃ rest, cs = (invocation.name ++ rest).toList ∧ Text.Spells invocation.args rest := by
  constructor
  · intro hread
    cases cs with
    | nil => cases hread
    | cons c cs =>
      cases hc : isBlank c with
      | true => simp [ofWords?, hc] at hread
      | false =>
        obtain ⟨rest, hsplit, hspells⟩ :=
          Text.exists_spells fun hmem => h (List.mem_cons_of_mem c hmem)
        rw [ofWords?_cons hc] at hread
        cases hread
        refine ⟨?_, rest, by simpa using hsplit, hspells⟩
        simpa [Text.IsWord, Text.hasBlank, hc] using (Text.scanWords_clean cs).1
  · rintro ⟨hname, rest, rfl, hspells⟩
    have hwords := hspells.words_append hname
    obtain ⟨name, args⟩ := invocation
    cases hchars : name.toList with
    | nil => exact absurd (by simpa using hchars) hname.1
    | cons c cs =>
      have hc : isBlank c = false := by
        have hclean := hname.2
        simp only [Text.hasBlank, hchars, List.any_cons, Bool.or_eq_false_iff] at hclean
        exact hclean.1
      have hwhole : (name ++ rest).toList = c :: (cs ++ rest.toList) := by simp [hchars]
      rw [Text.words, hwhole, Text.wordsOf, Text.scanWords] at hwords
      simp only [hc, Bool.false_eq_true, if_false, Text.closeWord, List.isEmpty_cons] at hwords
      obtain ⟨hhead, htail⟩ := List.cons_eq_cons.1 hwords
      rw [hwhole, ofWords?_cons hc, hhead, htail]

/-- A message is a command exactly if it is the mark, a word right behind it, and arguments spelled
behind that. -/
theorem ofMessage?_eq_some_iff {mark text : String} (h : '\r' ∉ text.toList)
    {invocation : Invocation} :
    ofMessage? mark text = some invocation ↔
      Text.IsWord invocation.name ∧
        ∃ rest, text = mark ++ invocation.name ++ rest ∧ Text.Spells invocation.args rest := by
  unfold ofMessage?
  rw [Option.bind_eq_some_iff]
  constructor
  · rintro ⟨cs, hmark, hread⟩
    have hsplit := Text.isPrefixOf?_eq_some_iff.1 hmark
    have hclean : '\r' ∉ cs := fun hmem => h (hsplit ▸ List.mem_append_right _ hmem)
    obtain ⟨hname, rest, rfl, hspells⟩ := (ofWords?_eq_some_iff hclean).1 hread
    refine ⟨hname, rest, ?_, hspells⟩
    rw [← String.toList_inj, hsplit]
    simp
  · rintro ⟨hname, rest, rfl, hspells⟩
    have hclean : '\r' ∉ (invocation.name ++ rest).toList := by
      intro hmem
      apply h
      rw [String.append_assoc, String.toList_append]
      exact List.mem_append_right _ hmem
    refine ⟨(invocation.name ++ rest).toList, Text.isPrefixOf?_eq_some_iff.2 (by simp), ?_⟩
    exact (ofWords?_eq_some_iff hclean).2 ⟨hname, rest, rfl, hspells⟩

/-- A message is no command if it does not start with the mark, or if nothing but a blank follows
the mark. -/
theorem ofMessage?_eq_none_iff {mark text : String} :
    ofMessage? mark text = none ↔
      ∀ cs, text.toList = mark.toList ++ cs →
        cs = [] ∨ ∃ c more, cs = c :: more ∧ isBlank c = true := by
  unfold ofMessage?
  rw [Option.bind_eq_none_iff]
  constructor
  · intro hnone cs hsplit
    exact ofWords?_eq_none_iff.1 (hnone cs (Text.isPrefixOf?_eq_some_iff.2 hsplit))
  · intro hsplits cs hmark
    exact ofWords?_eq_none_iff.2 (hsplits cs (Text.isPrefixOf?_eq_some_iff.1 hmark))

end Invocation

theorem Settings.hasBlank_mark_of_validate {settings : Settings}
    (h : settings.validate = .ok ()) : Text.hasBlank settings.mark = false := by
  unfold validate at h
  split at h
  · cases h
  · split at h
    · cases h
    · rename_i hmark
      simp only [Bool.or_eq_true, not_or, Bool.not_eq_true] at hmark
      exact hmark.2

namespace Session

theorem return_notMem_without (text : String) : '\r' ∉ (Text.without '\r' text).toList := by
  simp

/-- However a command is spelled, its name and its arguments are read. -/
theorem read?_spelled {session : Session} (hmark : Text.hasBlank session.bot.mark = false)
    {name : String} (hname : Text.IsWord name) {args : List String} {rest : String}
    (hspells : Text.Spells args rest) :
    session.read? (session.bot.mark ++ name ++ rest) = some ⟨name, args⟩ := by
  apply (Invocation.ofMessage?_eq_some_iff (return_notMem_without _)).2
  refine ⟨hname, Text.without '\r' rest, ?_, hspells.without_return⟩
  rw [Text.without_append, Text.without_append,
    Text.without_eq_self (Text.return_notMem_of_hasBlank hmark),
    Text.without_eq_self (Text.return_notMem_of_hasBlank hname.2)]

/-- Commands are read as they were typed. Take the mark of settings that do. Whatever gaps a user
leaves before the arguments, and whatever blanks at the end, the name and the arguments are read as
they are; carriage returns may stand in the gaps, but do not make one. Whatever is read as a command
was typed like this, once carriage returns are left out, and nothing is read exactly if the text
does not start with the mark or if nothing or a blank follows the mark. So what is said to another
bot with arguments that were read is read there with the same arguments. -/
theorem commands_read_back {settings : Settings} (hvalid : settings.validate = .ok ())
    (session : Session) (hmark : session.bot.mark = settings.mark) :
    (∀ (name : String) (args : List String) (rest : String), Text.IsWord name →
      Text.Spells args rest → session.read? (settings.mark ++ name ++ rest) = some ⟨name, args⟩) ∧
    (∀ (text name : String) (args : List String), session.read? text = some ⟨name, args⟩ →
      Text.IsWord name ∧ (∀ arg ∈ args, Text.IsWord arg) ∧
        ∃ rest, Text.without '\r' text = settings.mark ++ name ++ rest ∧ Text.Spells args rest) ∧
    (∀ text : String, session.read? text = none ↔
      ∀ cs, (Text.without '\r' text).toList = settings.mark.toList ++ cs →
        cs = [] ∨ ∃ c more, cs = c :: more ∧ Text.isBlank c = true) ∧
    ∀ (text name : String) (args : List String), session.read? text = some ⟨name, args⟩ →
      ∀ target, Text.IsWord target →
        ∀ (sayer classAlias : String) (onStore : OnStore) (world : World), ∃ line,
          (Command.run onStore ⟨sayer, classAlias, .echo target⟩ args world).result = .ok [line] ∧
          ∀ peer : Session, peer.bot.mark = Bot.defaultMark →
            peer.read? line = some ⟨target, args⟩ := by
  have hblank := Settings.hasBlank_mark_of_validate hvalid
  rw [← hmark] at hblank ⊢
  have hread (text name : String) (args : List String)
      (h : session.read? text = some ⟨name, args⟩) :=
    (Invocation.ofMessage?_eq_some_iff (return_notMem_without text)).1 h
  refine ⟨?_, ?_, ?_, ?_⟩
  · intro name args rest hname hspells
    exact read?_spelled hblank hname hspells
  · intro text name args h
    obtain ⟨hname, rest, hsplit, hspells⟩ := hread text name args h
    exact ⟨hname, hspells.isWord, rest, hsplit, hspells⟩
  · intro text
    exact Invocation.ofMessage?_eq_none_iff
  · intro text name args h target htarget sayer classAlias onStore world
    obtain ⟨_, _, _, hspells⟩ := hread text name args h
    have hne : target.isEmpty = false := by simpa using htarget.1
    refine ⟨echoMark ++ target ++ " " ++ Text.unwords args, ?_, ?_⟩
    · simp [Command.run, Body.run, Outcome.within, runEcho, hne, Outcome.done]
    · intro peer hpeer
      have hdefault : Text.hasBlank peer.bot.mark = false := by
        rw [hpeer]
        decide
      have hline := read?_spelled hdefault htarget (Text.spells_unwords hspells.isWord)
      rw [hpeer, ← String.append_assoc] at hline
      exact hline

/-- A command with carriage returns beside an ideographic space and at the end, in a bot with a mark
of two characters, and its arguments passed on to a bot with the default mark. -/
theorem spoken_passed_on :
    let settings : Settings := { Settings.default with transport := .console, mark := "?!" }
    let session : Session :=
      start ⟨.empty, [], [], [], .empty, .empty, settings.mark⟩ .empty
    let typed := "\r\u3000" ++ "hi" ++ ("  " ++ "all" ++ "\r ")
    settings.validate = .ok () ∧ session.bot.mark = settings.mark ∧ Text.IsWord "say" ∧
      Text.Spells ["hi", "all"] typed ∧
      session.read? (settings.mark ++ "say" ++ typed) = some ⟨"say", ["hi", "all"]⟩ ∧
      Text.IsWord "greet" ∧
      ∃ line,
        (Command.run (Hooks.onStore .empty "a") ⟨"say", "EchoCommand", .echo "greet"⟩ ["hi", "all"]
          session.world).result = .ok [line] ∧
        ∀ peer : Session, peer.bot.mark = Bot.defaultMark →
          peer.read? line = some ⟨"greet", ["hi", "all"]⟩ := by
  intro settings session typed
  have hmark : Text.hasBlank "?!" = false := by decide
  have hvalid : settings.validate = .ok () := by
    simp [settings, Settings.validate, Settings.default, hmark]
  have hspells : Text.Spells ["hi", "all"] typed :=
    .arg (by decide) (by decide) (.arg (by decide) (by decide) (.done (by decide)))
  obtain ⟨hread, _, _, hsaid⟩ := commands_read_back hvalid session rfl
  have hcommand := hread "say" ["hi", "all"] typed (by decide) hspells
  exact ⟨hvalid, rfl, by decide, hspells, hcommand, by decide,
    hsaid _ "say" ["hi", "all"] hcommand "greet" (by decide) "say" "EchoCommand"
      (Hooks.onStore .empty "a") session.world⟩

end Session

end CommandBot
