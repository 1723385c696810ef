import CommandBot.Proofs.Text.Cut
import CommandBot.Proofs.Text.Words

namespace CommandBot.Text

/-- A text without blanks has no carriage return, which is one. -/
theorem return_notMem_of_hasBlank {text : String} (h : hasBlank text = false) :
    '\r' ∉ text.toList := by
  intro hmem
  have hblank : isBlank '\r' = false := by
    simp only [hasBlank, List.any_eq_false] at h
    simpa using h '\r' hmem
  rw [isBlank_carriageReturn] at hblank
  cases hblank

/-- Only blanks, or nothing. -/
def IsBlanks (text : String) : Prop := ∀ c ∈ text.toList, isBlank c = true

instance (text : String) : Decidable (IsBlanks text) :=
  decidable_of_iff (text.toList.all isBlank = true) (by simp [IsBlanks])

/-- Blanks that part two words: one of them at least is not a carriage return, since those are left
out. -/
def IsGap (text : String) : Prop := IsBlanks text ∧ ∃ c ∈ text.toList, c ≠ '\r'

instance (text : String) : Decidable (IsGap text) :=
  decidable_of_iff (IsBlanks text ∧ text.toList.any (· != '\r') = true) (by simp [IsGap])

/-- What may follow the name of a command: its arguments, each of them behind a gap, and blanks at
the end. -/
inductive Spells : List String → String → Prop
  | done {blanks : String} : IsBlanks blanks → Spells [] blanks
  | arg {gap arg rest : String} {args : List String} :
      IsGap gap → IsWord arg → Spells args rest → Spells (arg :: args) (gap ++ arg ++ rest)

theorem Spells.isWord {args : List String} {rest : String} (h : Spells args rest) :
    ∀ arg ∈ args, IsWord arg := by
  induction h with
  | done _ => simp
  | arg _ harg _ ih => exact List.forall_mem_cons.2 ⟨harg, ih⟩

/-- Carriage returns may stand between the words, so it does not matter when they are left out. -/
theorem Spells.without_return {args : List String} {rest : String} (h : Spells args rest) :
    Spells args (without '\r' rest) := by
  induction h with
  | done hblanks =>
    refine .done fun c hc => hblanks c ?_
    simp only [toList_without, List.mem_filter] at hc
    exact hc.1
  | @arg gap arg rest args hgap harg _ ih =>
    obtain ⟨hblanks, c, hc, hne⟩ := hgap
    rw [without_append, without_append, without_eq_self (return_notMem_of_hasBlank harg.2)]
    refine .arg ⟨?_, c, ?_, hne⟩ harg ih
    · intro d hd
      simp only [toList_without, List.mem_filter] at hd
      exact hblanks d hd.1
    · simpa using ⟨hc, hne⟩

theorem wordsOf_of_blanks {cs : List Char} (h : ∀ c ∈ cs, isBlank c = true) (rest : List Char) :
    wordsOf (cs ++ rest) = wordsOf rest := by
  induction cs with
  | nil => rfl
  | cons c cs ih =>
    obtain ⟨hc, hcs⟩ := List.forall_mem_cons.1 h
    have hnone : wordsOf [] = [] := rfl
    rw [List.cons_append, ← List.nil_append (c :: (cs ++ rest)), wordsOf_append_blank hc, hnone,
      List.nil_append, ih hcs]

/-- Blanks between two texts part their words, however many they are. -/
theorem words_append_blanks {gap : String} (hgap : IsBlanks gap) (hne : gap ≠ "")
    (text rest : String) : words (text ++ gap ++ rest) = words text ++ words rest := by
  cases hchars : gap.toList with
  | nil => exact absurd (by simpa using hchars) hne
  | cons c cs =>
    unfold IsBlanks at hgap
    rw [hchars] at hgap
    obtain ⟨hc, hcs⟩ := List.forall_mem_cons.1 hgap
    have hwhole : (text ++ gap ++ rest).toList = text.toList ++ c :: (cs ++ rest.toList) := by
      simp [hchars]
    rw [words, hwhole, wordsOf_append_blank hc, wordsOf_of_blanks hcs, List.map_append, words,
      words]

/-- A gap is not empty, so it parts what is around it. -/
theorem IsGap.ne_empty {gap : String} (h : IsGap gap) : gap ≠ "" := by
  rintro rfl
  obtain ⟨_, c, hc, _⟩ := h
  cases hc

/-- What is spelled behind a word is what is read behind it. -/
theorem Spells.words_append {args : List String} {rest : String} (h : Spells args rest)
    {word : String} (hword : IsWord word) : words (word ++ rest) = word :: args := by
  induction h generalizing word with
  | @done blanks hblanks =>
    by_cases hnone : blanks = ""
    · rw [hnone, String.append_empty, words_eq_self hword]
    · have hend := words_append_blanks hblanks hnone word ""
      rw [String.append_empty] at hend
      rw [hend, words_eq_self hword]
      rfl
  | @arg gap arg rest args hgap harg _ ih =>
    have hwhole : word ++ (gap ++ arg ++ rest) = word ++ gap ++ (arg ++ rest) := by
      simp [String.append_assoc]
    rw [hwhole, words_append_blanks hgap.1 hgap.ne_empty, words_eq_self hword, ih harg,
      List.singleton_append]

/-- A blank more makes the first gap longer, or the end. -/
theorem Spells.blank {c : Char} (hc : isBlank c = true) {args : List String} {rest : String}
    (h : Spells args rest) : Spells args (String.singleton c ++ rest) := by
  have hblanks {blanks : String} (h : IsBlanks blanks) :
      IsBlanks (String.singleton c ++ blanks) := by
    simpa [IsBlanks, hc] using h
  cases h with
  | done hrest => exact .done (hblanks hrest)
  | @arg gap arg rest args hgap harg hrest =>
    obtain ⟨hgap, d, hd, hne⟩ := hgap
    rw [← String.append_assoc, ← String.append_assoc]
    refine .arg ⟨hblanks hgap, d, ?_, hne⟩ harg hrest
    simp [hd]

/-- A text without carriage returns is what the scan finds in it: the word that it opens with, and
behind it the spelling of the others. -/
theorem exists_spells {cs : List Char} (h : '\r' ∉ cs) :
    ∃ rest, cs = (scanWords cs).1 ++ rest.toList ∧
      Spells ((scanWords cs).2.map String.ofList) rest := by
  induction cs with
  | nil => exact ⟨"", rfl, .done (by simp [IsBlanks])⟩
  | cons c cs ih =>
    obtain ⟨hc, hcs⟩ : '\r' ≠ c ∧ '\r' ∉ cs := by simpa using h
    obtain ⟨rest, hsplit, hspells⟩ := ih hcs
    cases hblank : isBlank c with
    | false =>
      simp only [scanWords, hblank, Bool.false_eq_true, if_false]
      exact ⟨rest, congrArg (c :: ·) hsplit, hspells⟩
    | true =>
      simp only [scanWords, hblank, if_true]
      cases hword : (scanWords cs).1 with
      | nil =>
        rw [hword] at hsplit
        exact ⟨String.singleton c ++ rest, by simpa using hsplit, hspells.blank hblank⟩
      | cons d word =>
        rw [hword] at hsplit
        have hgap : IsGap (String.singleton c) := by
          simpa [IsGap, IsBlanks] using ⟨hblank, Ne.symm hc⟩
        have hclean : IsWord (String.ofList (d :: word)) := by
          simpa [IsWord, hasBlank, hword] using (scanWords_clean cs).1
        exact ⟨_, by simpa using hsplit, .arg hgap hclean hspells⟩

/-- Words joined by spaces are spelled behind one more space. If there are none, it is the blank at
the end. -/
theorem spells_unwords {args : List String} (h : ∀ arg ∈ args, IsWord arg) :
    Spells args (" " ++ unwords args) := by
  have hgap : IsGap " " := by
    simp [IsGap, IsBlanks, isBlank_space]
  induction args with
  | nil => exact .done hgap.1
  | cons arg args ih =>
    obtain ⟨harg, hargs⟩ := List.forall_mem_cons.1 h
    cases args with
    | nil =>
      have hend : Spells [arg] (" " ++ arg ++ "") := .arg hgap harg (.done (by simp [IsBlanks]))
      simpa [unwords] using hend
    | cons next args =>
      have hjoined : " " ++ unwords (arg :: next :: args) =
          " " ++ arg ++ (" " ++ unwords (next :: args)) := by
        simp [unwords, String.intercalate_cons_cons, String.append_assoc]
      rw [hjoined]
      exact .arg hgap harg (ih hargs)

end CommandBot.Text
