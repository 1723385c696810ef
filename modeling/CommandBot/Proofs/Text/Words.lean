import CommandBot.Text.Words

namespace CommandBot.Text

/-- A text that is one word: it is not empty and holds no blank. It is the only word of itself, so
words that are split again stay as they are. -/
def IsWord (text : String) : Prop := text ≠ "" ∧ hasBlank text = false

instance (text : String) : Decidable (IsWord text) :=
  inferInstanceAs (Decidable (text ≠ "" ∧ hasBlank text = false))

/-- A scan without blanks finds the one word that the text opens with. -/
theorem scanWords_eq_self {cs : List Char} (h : ∀ c ∈ cs, isBlank c = false) :
    scanWords cs = (cs, []) := by
  induction cs with
  | nil => rfl
  | cons c cs ih =>
    obtain ⟨hc, hcs⟩ := List.forall_mem_cons.1 h
    simp [scanWords, ih hcs, hc]

theorem wordsOf_eq_self {cs : List Char} (hne : cs ≠ []) (h : ∀ c ∈ cs, isBlank c = false) :
    wordsOf cs = [cs] := by
  simp [wordsOf, scanWords_eq_self h, closeWord, hne]

theorem words_eq_self {word : String} (h : IsWord word) : words word = [word] := by
  obtain ⟨hne, hblank⟩ := h
  have hchars : ∀ c ∈ word.toList, isBlank c = false := by
    simpa [hasBlank] using hblank
  have hempty : word.toList ≠ [] := by
    simpa using hne
  rw [words, wordsOf_eq_self hempty hchars, List.map_singleton, String.ofList_toList]

/-- Words that are split again stay as they are. -/
theorem flatMap_words_eq_self {args : List String} (h : ∀ arg ∈ args, IsWord arg) :
    args.flatMap words = args := by
  induction args with
  | nil => rfl
  | cons arg args ih =>
    obtain ⟨harg, hargs⟩ := List.forall_mem_cons.1 h
    rw [List.flatMap_cons, words_eq_self harg, ih hargs, List.singleton_append]

theorem mem_closeWord {word piece : List Char} {rest : List (List Char)} :
    piece ∈ closeWord word rest ↔ (piece = word ∧ word ≠ []) ∨ piece ∈ rest := by
  cases word with
  | nil => simp [closeWord]
  | cons c word => simp [closeWord]

/-- No blank gets into the word that the text opens with, nor into those after it. -/
theorem scanWords_clean (cs : List Char) :
    (∀ c ∈ (scanWords cs).1, isBlank c = false) ∧
      ∀ piece ∈ (scanWords cs).2, piece ≠ [] ∧ ∀ c ∈ piece, isBlank c = false := by
  induction cs with
  | nil => simp [scanWords]
  | cons c cs ih =>
    obtain ⟨hword, hrest⟩ := ih
    cases hc : isBlank c with
    | false =>
      simp only [scanWords, hc, Bool.false_eq_true, if_false]
      exact ⟨List.forall_mem_cons.2 ⟨hc, hword⟩, hrest⟩
    | true =>
      simp only [scanWords, hc, if_true]
      refine ⟨by simp, ?_⟩
      intro piece hpiece
      rcases mem_closeWord.1 hpiece with ⟨rfl, hne⟩ | hpiece
      · exact ⟨hne, hword⟩
      · exact hrest piece hpiece

theorem isWord_of_mem_words {text word : String} (h : word ∈ words text) : IsWord word := by
  obtain ⟨piece, hpiece, rfl⟩ := List.mem_map.1 h
  have hclean : piece ≠ [] ∧ ∀ c ∈ piece, isBlank c = false := by
    rcases mem_closeWord.1 hpiece with ⟨rfl, hne⟩ | hpiece
    · exact ⟨hne, (scanWords_clean text.toList).1⟩
    · exact (scanWords_clean text.toList).2 piece hpiece
  simpa [IsWord, hasBlank] using hclean

/-! ### Words of joined texts -/

theorem closeWord_append (word : List Char) (rest more : List (List Char)) :
    closeWord word (rest ++ more) = closeWord word rest ++ more := by
  unfold closeWord
  split
  · rfl
  · rfl

/-- The scan is over the characters before the blank; what it has found behind it are the words of
the other side. -/
theorem scanWords_append_blank {c : Char} (hc : isBlank c = true) (before after : List Char) :
    scanWords (before ++ c :: after) =
      ((scanWords before).1, (scanWords before).2 ++ wordsOf after) := by
  induction before with
  | nil => simp [scanWords, hc, wordsOf]
  | cons d before ih =>
    rw [List.cons_append, scanWords, ih, scanWords]
    cases hd : isBlank d with
    | false => rfl
    | true => simp [closeWord_append]

/-- A blank parts the words before it from those after it. -/
theorem wordsOf_append_blank {c : Char} (hc : isBlank c = true) (before after : List Char) :
    wordsOf (before ++ c :: after) = wordsOf before ++ wordsOf after := by
  rw [wordsOf, scanWords_append_blank hc]
  exact closeWord_append ..

/-- The words of joined texts are the words of each, whichever blanks stand in them. -/
theorem words_unwords (texts : List String) : words (unwords texts) = texts.flatMap words := by
  unfold unwords
  induction texts with
  | nil => rfl
  | cons text texts ih =>
    cases texts with
    | nil => simp
    | cons next texts =>
      have hjoined : (" ".intercalate (text :: next :: texts)).toList =
          text.toList ++ ' ' :: (" ".intercalate (next :: texts)).toList := by
        simp [String.intercalate_cons_cons]
      rw [List.flatMap_cons, ← ih, words, hjoined, wordsOf_append_blank isBlank_space,
        List.map_append, words, words]

end CommandBot.Text
