import CommandBot.Text.Cut

namespace CommandBot.Text

theorem isPrefixOf?_cons (c d : Char) (lead cs : List Char) :
    (c :: lead).isPrefixOf? (d :: cs) = if c = d then lead.isPrefixOf? cs else none := by
  by_cases h : c = d
  · subst h
    rw [if_pos rfl]
    exact if_pos (beq_self_eq_true c)
  · rw [if_neg h]
    exact if_neg (by simpa using h)

theorem isPrefixOf?_append (lead rest : List Char) :
    lead.isPrefixOf? (lead ++ rest) = some rest := by
  induction lead with
  | nil => rfl
  | cons c lead ih => rw [List.cons_append, isPrefixOf?_cons, if_pos rfl, ih]

/-- What follows a beginning is found exactly if the text starts with it. -/
theorem isPrefixOf?_eq_some_iff {lead cs rest : List Char} :
    lead.isPrefixOf? cs = some rest ↔ cs = lead ++ rest := by
  constructor
  · intro h
    induction lead generalizing cs with
    | nil => exact Option.some.inj h
    | cons c lead ih =>
      cases cs with
      | nil => cases h
      | cons d cs =>
        rw [isPrefixOf?_cons] at h
        split at h
        · rename_i hcd
          rw [hcd, ih h, List.cons_append]
        · cases h
  · rintro rfl
    exact isPrefixOf?_append lead rest

/-- A mark that is not in what comes before it is the first one, so the text is cut there. -/
theorem splitAt?_append_mark {mark : Char} {before : List Char} (h : mark ∉ before)
    (rest : List Char) : splitAt? [mark] (before ++ mark :: rest) = some (before, rest) := by
  induction before with
  | nil =>
    rw [List.nil_append, splitAt?, isPrefixOf?_cons, if_pos rfl]
    rfl
  | cons c before ih =>
    obtain ⟨hc, hbefore⟩ : mark ≠ c ∧ mark ∉ before := by simpa using h
    rw [List.cons_append, splitAt?, isPrefixOf?_cons, if_neg hc, ih hbefore]
    rfl

theorem splitOn_ne_nil {α : Type} [DecidableEq α] (mark : α) (xs : List α) :
    splitOn mark xs ≠ [] := by
  cases xs with
  | nil => exact List.cons_ne_nil _ _
  | cons x xs =>
    rw [splitOn]
    split
    · exact List.cons_ne_nil _ _
    · split <;> exact List.cons_ne_nil _ _

/-- Where a text is cut at every mark, the first piece is what comes before the first one. -/
theorem splitOn_append_mark {α : Type} [DecidableEq α] {mark : α} {piece : List α}
    (h : mark ∉ piece) (rest : List α) :
    splitOn mark (piece ++ mark :: rest) = piece :: splitOn mark rest := by
  induction piece with
  | nil => simp [splitOn]
  | cons x piece ih =>
    obtain ⟨hx, hpiece⟩ : mark ≠ x ∧ mark ∉ piece := by simpa using h
    rw [List.cons_append, splitOn, if_neg (Ne.symm hx), ih hpiece]

theorem dropLast_splitOn_append_mark {α : Type} [DecidableEq α] {mark : α} {piece : List α}
    (h : mark ∉ piece) (rest : List α) :
    (splitOn mark (piece ++ mark :: rest)).dropLast = piece :: (splitOn mark rest).dropLast := by
  rw [splitOn_append_mark h, List.dropLast_cons_of_ne_nil (splitOn_ne_nil mark rest)]

/-- What stands behind the last mark does not depend on what stands before the others. -/
theorem getLast?_splitOn_append_mark {α : Type} [DecidableEq α] {mark : α} {piece : List α}
    (h : mark ∉ piece) (rest : List α) :
    (splitOn mark (piece ++ mark :: rest)).getLast? = (splitOn mark rest).getLast? := by
  rw [splitOn_append_mark h, List.getLast?_cons,
    List.getLast?_eq_some_getLast (splitOn_ne_nil mark rest), Option.getD_some]

theorem splitOn_of_notMem {α : Type} [DecidableEq α] {mark : α} {piece : List α}
    (h : mark ∉ piece) : splitOn mark piece = [piece] := by
  induction piece with
  | nil => rfl
  | cons x piece ih =>
    obtain ⟨hx, hpiece⟩ : mark ≠ x ∧ mark ∉ piece := by simpa using h
    rw [splitOn, if_neg (Ne.symm hx), ih hpiece]

/-- Lines that each stand behind a line feed are cut apart again. -/
theorem splitOn_append_join_feed {first : String} {lines : List String}
    (hfirst : '\n' ∉ first.toList) (h : ∀ line ∈ lines, '\n' ∉ line.toList) :
    (splitOn '\n' (first ++ String.join (lines.map ("\n" ++ ·))).toList).map String.ofList =
      first :: lines := by
  induction lines generalizing first with
  | nil => simp [splitOn_of_notMem hfirst]
  | cons next lines ih =>
    obtain ⟨hnext, hlines⟩ := List.forall_mem_cons.1 h
    have hchars : (first ++ String.join ((next :: lines).map ("\n" ++ ·))).toList =
        first.toList ++ '\n' :: (next ++ String.join (lines.map ("\n" ++ ·))).toList := by
      simp
    rw [hchars, splitOn_append_mark hfirst, List.map_cons, ih hnext hlines, String.ofList_toList]

/-! ### Runs of characters -/

/-- A run of characters ends at the first that does not belong to it. -/
theorem takeWhile_append_cons {p : Char → Bool} {run : List Char} {c : Char}
    (hrun : ∀ d ∈ run, p d = true) (hc : p c = false) (rest : List Char) :
    (run ++ c :: rest).takeWhile p = run := by
  simp [List.takeWhile_append_of_pos hrun, hc]

theorem dropWhile_append_cons {p : Char → Bool} {run : List Char} {c : Char}
    (hrun : ∀ d ∈ run, p d = true) (hc : p c = false) (rest : List Char) :
    (run ++ c :: rest).dropWhile p = c :: rest := by
  simp [List.dropWhile_append_of_pos hrun, hc]

/-- A run that does not go on to the end is stopped by a character. -/
theorem exists_of_length_takeWhile_lt {p : Char → Bool} {cs : List Char}
    (h : (cs.takeWhile p).length < cs.length) :
    ∃ c rest, p c = false ∧ cs = cs.takeWhile p ++ c :: rest := by
  have hsplit := List.takeWhile_append_dropWhile (p := p) (l := cs)
  cases hrest : cs.dropWhile p with
  | nil =>
    rw [hrest, List.append_nil] at hsplit
    rw [hsplit] at h
    exact absurd h (Nat.lt_irrefl _)
  | cons c rest =>
    have hc := List.head?_dropWhile_not p cs
    rw [hrest] at hsplit hc
    exact ⟨c, rest, by simpa using hc, hsplit.symm⟩

/-! ### Leaving a character out -/

@[simp] theorem toList_without (c : Char) (text : String) :
    (without c text).toList = text.toList.filter (· != c) :=
  String.toList_ofList

theorem without_append (c : Char) (text more : String) :
    without c (text ++ more) = without c text ++ without c more := by
  simp [← String.toList_inj]

theorem without_eq_self {c : Char} {text : String} (h : c ∉ text.toList) :
    without c text = text := by
  rw [← String.toList_inj, toList_without, List.filter_eq_self]
  intro d hd
  simpa using ne_of_mem_of_not_mem hd h

end CommandBot.Text
