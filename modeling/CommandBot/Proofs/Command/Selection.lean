import CommandBot.Proofs.Text.Count
import CommandBot.Run

namespace CommandBot

namespace Branch

/-- A branch answers to its selector, or, if it has none, to the name of the command that its step
refers to. To a branch with neither no word belongs. -/
inductive Answers (word : String) : Branch → Prop
  | selector (step : Step) : Answers word ⟨some word, step⟩
  | target {target : Command} {leading : List String} :
      target.name = word → Answers word ⟨none, .reference target leading⟩

theorem word?_eq_some_iff {branch : Branch} {word : String} :
    branch.word? = some word ↔ branch.Answers word := by
  constructor
  · intro hword
    obtain ⟨selector, step⟩ := branch
    cases selector with
    | some selector =>
      cases hword
      exact .selector step
    | none =>
      cases step with
      | reference target leading =>
        cases hword
        exact .target rfl
      | inline command => cases hword
  · intro hanswers
    cases hanswers with
    | selector step => rfl
    | target hname => exact congrArg some hname

/-- The index of the branch that a word selects: the first one that answers to the word, or, if none
does, the one whose position, counted from 1, the word writes. The number has to fit a machine word,
as every position in memory does. -/
inductive Chosen (branches : List Branch) (word : String) : Nat → Prop
  | named {index : Nat} {branch : Branch} : branches[index]? = some branch → branch.Answers word →
      (∀ earlier other, earlier < index → branches[earlier]? = some other → ¬ other.Answers word) →
        Chosen branches word index
  | counted {index : Nat} : (∀ branch ∈ branches, ¬ branch.Answers word) →
      Text.Writes word (index + 1) → index + 1 ≤ branches.length → index + 1 < Text.countLimit →
        Chosen branches word index

/-- A word is a position if it writes a number that a machine word holds. -/
theorem position?_eq_some_iff {word : String} {n : Nat} :
    position? word = some n ↔ Text.Writes word n ∧ n < Text.countLimit := by
  unfold position?
  split
  · rename_i digits hplus
    rw [Text.count?_eq_some_iff]
    constructor
    · rintro ⟨hne, hdigits, hvalue, hn⟩
      exact ⟨⟨digits, .inr hplus, hne, hdigits, hvalue⟩, hn⟩
    · rintro ⟨⟨others, hspelled, hne, hdigits, hvalue⟩, hn⟩
      rcases hspelled with hspelled | hspelled
      · rw [← hspelled, hplus] at hdigits
        exact absurd List.mem_cons_self (Text.plus_notMem_of_areDigits hdigits)
      · rw [hplus] at hspelled
        cases hspelled
        exact ⟨hne, hdigits, hvalue, hn⟩
  · rename_i _ hnoplus
    rw [Text.count?_eq_some_iff]
    constructor
    · rintro ⟨hne, hdigits, hvalue, hn⟩
      exact ⟨⟨_, .inl rfl, hne, hdigits, hvalue⟩, hn⟩
    · rintro ⟨⟨others, hspelled, hne, hdigits, hvalue⟩, hn⟩
      rcases hspelled with hspelled | hspelled
      · rw [hspelled]
        exact ⟨hne, hdigits, hvalue, hn⟩
      · exact absurd hspelled (hnoplus others)

theorem findIdx?_word?_eq_some_iff {branches : List Branch} {word : String} {index : Nat} :
    branches.findIdx? (·.word? == some word) = some index ↔
      ∃ branch, branches[index]? = some branch ∧ branch.Answers word ∧
        ∀ earlier other, earlier < index → branches[earlier]? = some other →
          ¬ other.Answers word := by
  rw [List.findIdx?_eq_some_iff_getElem]
  constructor
  · rintro ⟨hindex, hword, hearlier⟩
    refine ⟨branches[index], List.getElem?_eq_getElem hindex, ?_, ?_⟩
    · exact word?_eq_some_iff.1 (by simpa using hword)
    · intro earlier other hlt hother hanswers
      obtain ⟨_, rfl⟩ := List.getElem?_eq_some_iff.1 hother
      exact hearlier earlier hlt (by simpa using word?_eq_some_iff.2 hanswers)
  · rintro ⟨branch, hbranch, hanswers, hearlier⟩
    obtain ⟨hindex, rfl⟩ := List.getElem?_eq_some_iff.1 hbranch
    refine ⟨hindex, by simpa using word?_eq_some_iff.2 hanswers, ?_⟩
    intro earlier hlt hword
    exact hearlier earlier _ hlt (List.getElem?_eq_getElem (hlt.trans hindex))
      (word?_eq_some_iff.1 (by simpa using hword))

/-- Nothing is found by name just if no branch answers, and only then does the word count as a
number. -/
theorem findIdx?_word?_eq_none_iff {branches : List Branch} {word : String} :
    branches.findIdx? (·.word? == some word) = none ↔
      ∀ branch ∈ branches, ¬ branch.Answers word := by
  simp [List.findIdx?_eq_none_iff, ← word?_eq_some_iff]

/-- What the position of a word leads to, where no branch answers to the word. -/
theorem selected_position_iff {branches : List Branch} {word : String} {index : Nat} :
    (match position? word with
      | some (n + 1) => if n < branches.length then some n else none
      | _ => none) = some index ↔
      Text.Writes word (index + 1) ∧ index + 1 ≤ branches.length ∧
        index + 1 < Text.countLimit := by
  constructor
  · intro hselected
    split at hselected
    · rename_i n hposition
      split at hselected
      · rename_i hn
        cases hselected
        obtain ⟨hwrites, hheld⟩ := position?_eq_some_iff.1 hposition
        exact ⟨hwrites, hn, hheld⟩
      · cases hselected
    · cases hselected
  · rintro ⟨hwrites, hle, hheld⟩
    have hposition : position? word = some (index + 1) :=
      position?_eq_some_iff.2 ⟨hwrites, hheld⟩
    simp only [hposition]
    exact if_pos hle

/-- Selection finds the chosen branch, and finds one only if one is chosen. -/
theorem select?_eq_some_iff {branches : List Branch} {word : String} {index : Nat} :
    select? branches word = some index ↔ Chosen branches word index := by
  unfold select?
  cases hnamed : branches.findIdx? (·.word? == some word) with
  | some found =>
    obtain ⟨branch, hbranch, hanswers, hfirst⟩ := findIdx?_word?_eq_some_iff.1 hnamed
    have hchosen : Chosen branches word found := .named hbranch hanswers hfirst
    constructor
    · intro hselected
      cases hselected
      exact hchosen
    · intro hother
      cases hother with
      | named hother hcalled hearlier =>
        have hsame := findIdx?_word?_eq_some_iff.2 ⟨_, hother, hcalled, hearlier⟩
        rw [hnamed] at hsame
        exact hsame
      | counted hnobody _ _ _ =>
        exact absurd hanswers (hnobody branch (List.mem_of_getElem? hbranch))
  | none =>
    have hnobody := findIdx?_word?_eq_none_iff.1 hnamed
    refine selected_position_iff.trans ?_
    constructor
    · rintro ⟨hwrites, hle, hheld⟩
      exact .counted hnobody hwrites hle hheld
    · intro hchosen
      cases hchosen with
      | named hbranch hanswers _ =>
        exact absurd hanswers (hnobody _ (List.mem_of_getElem? hbranch))
      | counted _ hwrites hle hheld => exact ⟨hwrites, hle, hheld⟩

theorem Chosen.exists_branch {branches : List Branch} {word : String} {index : Nat}
    (h : Chosen branches word index) : ∃ branch, branches[index]? = some branch := by
  cases h with
  | named hbranch _ _ => exact ⟨_, hbranch⟩
  | counted _ _ hle _ => exact ⟨_, List.getElem?_eq_getElem hle⟩

theorem runAt_eq {onStore : OnStore} {args : List String} {missing : Error}
    {branches : List Branch} {index : Nat} {branch : Branch}
    (h : branches[index]? = some branch) (world : World) :
    runAt onStore args missing branches index world = branch.step.run onStore args world := by
  induction branches generalizing index with
  | nil => cases h
  | cons first branches ih =>
    obtain ⟨_, step⟩ := first
    cases index with
    | zero =>
      cases h
      rfl
    | succ index =>
      rw [runAt]
      exact ih h

end Branch

/-- An option runs the branch that its first argument selects, on the other arguments. The branch is
the first one that answers to the argument by name. If there is none, and the argument is a decimal
numeral, it is the branch at that position, counted from 1; so zero selects nothing, and neither
does any numeral beyond the number of branches or beyond a machine word. The branch's own arguments
go before the others. Without an argument, or without a branch for it, nothing runs and the option
fails. -/
theorem Command.option_runs_chosen (branches : List Branch) (name classAlias : String)
    (onStore : OnStore) (world : World) :
    let option : Command := ⟨name, classAlias, .option branches⟩
    option.run onStore [] world = (Outcome.fails (.noMatchingOption name "") world).within name ∧
    ∀ (word : String) (rest : List String),
      (∀ index, Branch.select? branches word = some index ↔ Branch.Chosen branches word index) ∧
      (∀ n, (∀ branch ∈ branches, ¬ branch.Answers word) → Text.Writes word n →
        n = 0 ∨ branches.length < n ∨ Text.countLimit ≤ n →
          ∀ index, ¬ Branch.Chosen branches word index) ∧
      (∀ index, Branch.Chosen branches word index →
        ∃ branch, branches[index]? = some branch ∧
          option.run onStore (word :: rest) world =
            match branch.step with
            | .reference target leading => (target.run onStore (leading ++ rest) world).within name
            | .inline command => (command.run onStore rest world).within name) ∧
      ((∀ index, ¬ Branch.Chosen branches word index) →
        option.run onStore (word :: rest) world =
          (Outcome.fails (.noMatchingOption name word) world).within name) := by
  intro option
  refine ⟨rfl, ?_⟩
  intro word rest
  have hselect (index : Nat) := @Branch.select?_eq_some_iff branches word index
  refine ⟨hselect, ?_, ?_, ?_⟩
  · intro n hnobody hwrites houtside index hchosen
    cases hchosen with
    | named hbranch hanswers _ => exact hnobody _ (List.mem_of_getElem? hbranch) hanswers
    | counted _ hposition hle hheld =>
      have hsame := hwrites.unique hposition
      omega
  · intro index hchosen
    obtain ⟨branch, hbranch⟩ := hchosen.exists_branch
    refine ⟨branch, hbranch, ?_⟩
    have hrun : option.run onStore (word :: rest) world =
        (branch.step.run onStore rest world).within name := by
      simp only [option, Command.run, Body.run, (hselect index).2 hchosen,
        Branch.runAt_eq hbranch]
    rw [hrun]
    cases branch.step with
    | reference target leading => rfl
    | inline command => rfl
  · intro hnone
    have hnothing : Branch.select? branches word = none := by
      cases hselected : Branch.select? branches word with
      | none => rfl
      | some index => exact absurd ((hselect index).1 hselected) (hnone index)
    simp only [option, Command.run, Body.run, hnothing]

/-- An option with a numeral for a selector: "2" is the name of its first branch and not the
position of its second one, which "+02" writes. Two more than a machine word counts is not two. -/
theorem numbered_runs :
    let onStore : OnStore := Hooks.onStore .empty "host"
    let world : World := ⟨.empty, [], .empty⟩
    let say : Command := ⟨"say", "EchoCommand", .echo "title"⟩
    let branches : List Branch :=
      [⟨some "2", .inline ⟨"", "InfoCommand", .info "hi"⟩⟩, ⟨none, .reference say ["Super"]⟩]
    let option : Command := ⟨"pick", "OptionCommand", .option branches⟩
    Branch.Chosen branches "2" 0 ∧ Branch.Chosen branches "+02" 1 ∧
      option.run onStore ["+02", "Smash"] world =
        (say.run onStore ["Super", "Smash"] world).within "pick" ∧
      Text.Writes "18446744073709551618" (Text.countLimit + 2) ∧
      option.run onStore ["18446744073709551618"] world =
        (Outcome.fails (.noMatchingOption "pick" "18446744073709551618") world).within "pick" := by
  intro onStore world say branches option
  obtain ⟨_, hruns⟩ := Command.option_runs_chosen branches "pick" "OptionCommand" onStore world
  obtain ⟨hnamed, _, _, _⟩ := hruns "2" []
  obtain ⟨hcounted, _, hchosen, _⟩ := hruns "+02" ["Smash"]
  obtain ⟨_, houtside, _, hnothing⟩ := hruns "18446744073709551618" []
  have hsecond : Branch.Chosen branches "+02" 1 := (hcounted 1).1 (by decide)
  have hwrites : Text.Writes "18446744073709551618" (Text.countLimit + 2) :=
    ⟨_, .inl rfl, by decide, by decide, by decide⟩
  have hnobody : ∀ branch ∈ branches, ¬ branch.Answers "18446744073709551618" :=
    Branch.findIdx?_word?_eq_none_iff.1 (by decide)
  refine ⟨(hnamed 0).1 (by decide), hsecond, ?_, hwrites, ?_⟩
  · obtain ⟨branch, hbranch, hrun⟩ := hchosen 1 hsecond
    cases hbranch
    exact hrun
  · exact hnothing (houtside _ hnobody hwrites (.inr (.inr (by decide))))

end CommandBot
