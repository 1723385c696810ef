import CommandBot.Proofs.Text.Cut
import CommandBot.Template
import Mathlib.Data.List.Basic
import Mathlib.Data.List.Infix
import Mathlib.Data.List.TakeWhile

namespace CommandBot.Template

/-- A key that can stand in a placeholder: one or more ASCII letters, digits and underscores. -/
def IsKey (key : String) : Prop :=
  key ≠ "" ∧ ∀ c ∈ key.toList,
    ('A' ≤ c ∧ c ≤ 'Z') ∨ ('a' ≤ c ∧ c ≤ 'z') ∨ ('0' ≤ c ∧ c ≤ '9') ∨ c = '_'

/-- The key in braces. -/
def placeholder (key : String) : String := String.ofList ('{' :: key.toList ++ ['}'])

@[simp] theorem toList_placeholder (key : String) :
    (placeholder key).toList = '{' :: (key.toList ++ ['}']) := by
  simp [placeholder]

/-- A text with no placeholder in it; it may well have braces. -/
def IsLiteral (text : String) : Prop :=
  ∀ key, IsKey key → ¬ (placeholder key).toList <:+: text.toList

/-- The characters of keys, as ranges of ASCII. -/
theorem isKeyChar_iff {c : Char} :
    isKeyChar c = true ↔
      ('A' ≤ c ∧ c ≤ 'Z') ∨ ('a' ≤ c ∧ c ≤ 'z') ∨ ('0' ≤ c ∧ c ≤ '9') ∨ c = '_' := by
  have hranges : c.isAlphanum =
      ((decide ('A' ≤ c ∧ c ≤ 'Z') || decide ('a' ≤ c) && decide (c ≤ 'z')) ||
        decide ('0' ≤ c) && decide (c ≤ '9')) := rfl
  simp [isKeyChar, hranges, or_assoc]

theorem isKey_iff {key : String} :
    IsKey key ↔ key.toList ≠ [] ∧ ∀ c ∈ key.toList, isKeyChar c = true := by
  simp [IsKey, isKeyChar_iff]

instance (key : String) : Decidable (IsKey key) :=
  decidable_of_iff (key.toList ≠ [] ∧ key.toList.all isKeyChar = true) (by simp [isKey_iff])

/-! ### Placeholders -/

/-- What is read as a placeholder is a key and its closing brace. -/
theorem key?_eq_some_iff {cs key rest : List Char} :
    key? cs = some (key, rest) ↔
      (key ≠ [] ∧ ∀ c ∈ key, isKeyChar c = true) ∧ cs = key ++ '}' :: rest := by
  constructor
  · intro hread
    simp only [key?] at hread
    split at hread
    · rename_i hkey hrest
      cases hread
      refine ⟨⟨by simp [hkey], fun c => List.mem_takeWhile_imp⟩, ?_⟩
      rw [← hrest, List.takeWhile_append_dropWhile]
    · cases hread
  · rintro ⟨⟨hne, hkey⟩, rfl⟩
    obtain ⟨c, more, hcons⟩ := List.exists_cons_of_ne_nil hne
    have hclose : isKeyChar '}' = false := by decide
    have htaken := Text.takeWhile_append_cons hkey hclose rest
    have hdropped := Text.dropWhile_append_cons hkey hclose rest
    simp only [key?, htaken, hdropped]
    simp [hcons]

/-- The key of a placeholder does not reach over an opening brace. -/
theorem key?_append_open (before rest : List Char) :
    key? (before ++ '{' :: rest) =
      (key? before).map fun found => (found.1, found.2 ++ '{' :: rest) := by
  ext ⟨key, after⟩
  simp only [Option.map_eq_some_iff, Prod.exists, Prod.mk.injEq, key?_eq_some_iff]
  constructor
  · rintro ⟨hkey, hsplit⟩
    have hopen : '{' ∉ key ++ ['}'] := by
      intro hmem
      rcases List.mem_append.1 hmem with hmem | hmem
      · exact absurd (hkey.2 _ hmem) (by decide)
      · exact absurd hmem (by decide)
    rw [List.append_cons key] at hsplit
    rcases List.append_eq_append_iff.1 hsplit with
      ⟨between, hbetween, hrest⟩ | ⟨between, rfl, hafter⟩
    · cases between with
      | nil =>
        rw [List.append_nil] at hbetween
        exact ⟨key, [], ⟨hkey, hbetween.symm⟩, rfl, hrest⟩
      | cons c between =>
        obtain ⟨rfl, _⟩ := List.cons_eq_cons.1 hrest
        rw [hbetween] at hopen
        exact absurd (List.mem_append_right before List.mem_cons_self) hopen
    · exact ⟨key, between, ⟨hkey, by simp⟩, rfl, hafter.symm⟩
  · rintro ⟨_, after, ⟨hkey, rfl⟩, rfl, rfl⟩
    exact ⟨hkey, by simp⟩

/-- A text is literal if no opening brace in it has a key and a closing brace behind it. -/
theorem isLiteral_iff {text : String} :
    IsLiteral text ↔ ∀ rest, '{' :: rest <:+ text.toList → key? rest = none := by
  constructor
  · rintro h rest ⟨before, hsplit⟩
    cases hread : key? rest with
    | none => rfl
    | some found =>
      obtain ⟨hkey, hrest⟩ := key?_eq_some_iff.1 hread
      refine absurd ?_ (h (String.ofList found.1) (isKey_iff.2 (by simpa using hkey)))
      exact ⟨before, found.2, by simp [← hsplit, hrest]⟩
  · rintro h key hkey ⟨before, rest, hsplit⟩
    have hnone : key? (key.toList ++ '}' :: rest) = none := h _ ⟨before, by simp [← hsplit]⟩
    rw [key?_eq_some_iff.2 ⟨isKey_iff.1 hkey, rfl⟩] at hnone
    cases hnone

/-- Whether a text is literal can be seen at each of its tails. -/
theorem isLiteral_iff_tails {text : String} :
    IsLiteral text ↔ text.toList.tails.all
      (fun cs => cs.head? != some '{' || (key? cs.tail).isNone) = true := by
  simp only [isLiteral_iff, List.all_eq_true, List.mem_tails, Bool.or_eq_true, bne_iff_ne,
    Option.isNone_iff_eq_none]
  constructor
  · intro h cs hsuffix
    cases cs with
    | nil => simp
    | cons c rest =>
      by_cases hopen : c = '{'
      · subst hopen
        exact .inr (h rest hsuffix)
      · exact .inl (by simpa using hopen)
  · intro h rest hsuffix
    exact (h _ hsuffix).resolve_left (by simp)

instance (text : String) : Decidable (IsLiteral text) := decidable_of_iff _ isLiteral_iff_tails.symm

/-! ### Filling in -/

section Fill

variable (value : String → List Char)

theorem fillFrom_length_append (passed cs : List Char) :
    fillFrom value passed.length (passed ++ cs) = fillFrom value 0 cs := by
  induction passed with
  | nil => rfl
  | cons c passed ih => exact ih

/-- A placeholder gives way to its value, and the scan goes on behind it. -/
theorem fillFrom_of_key {cs key rest : List Char} (h : key? cs = some (key, rest)) :
    fillFrom value 0 ('{' :: cs) =
      value (String.ofList key) ++ fillFrom value (key.length + 1) cs := by
  simp [fillFrom, h]

/-- A brace that opens no placeholder stays. -/
theorem fillFrom_of_no_key {cs : List Char} (h : key? cs = none) :
    fillFrom value 0 ('{' :: cs) = '{' :: fillFrom value 0 cs := by
  simp [fillFrom, h]

theorem fillFrom_of_ne {c : Char} (h : c ≠ '{') (cs : List Char) :
    fillFrom value 0 (c :: cs) = c :: fillFrom value 0 cs := by
  rw [fillFrom, if_neg (by simpa using h)]

/-- A key in braces is found whatever follows it. -/
theorem fillFrom_placeholder {key : String} (hkey : IsKey key) (rest : List Char) :
    fillFrom value 0 ((placeholder key).toList ++ rest) = value key ++ fillFrom value 0 rest := by
  have hread : key? (key.toList ++ '}' :: rest) = some (key.toList, rest) :=
    key?_eq_some_iff.2 ⟨isKey_iff.1 hkey, rfl⟩
  have hpassed := fillFrom_length_append value (key.toList ++ ['}']) rest
  simp only [List.append_assoc, List.singleton_append, List.length_append,
    List.length_singleton] at hpassed
  rw [toList_placeholder, List.cons_append, List.append_assoc, List.singleton_append,
    fillFrom_of_key value hread, String.ofList_toList, hpassed]

/-- Nothing that is found before an opening brace depends on what follows it. The induction is on
what is before it, of which a part may be passed over. -/
theorem fillFrom_append_open {skip : Nat} {before : List Char} (hskip : skip ≤ before.length)
    (rest : List Char) :
    fillFrom value skip (before ++ '{' :: rest) =
      fillFrom value skip before ++ fillFrom value 0 ('{' :: rest) := by
  induction before generalizing skip with
  | nil =>
    obtain rfl : skip = 0 := by simpa using hskip
    rfl
  | cons c before ih =>
    cases skip with
    | succ skip => exact ih (Nat.le_of_succ_le_succ hskip)
    | zero =>
      by_cases hopen : c = '{'
      · subst hopen
        rw [List.cons_append]
        cases hread : key? before with
        | none =>
          have hnone : key? (before ++ '{' :: rest) = none := by simp [key?_append_open, hread]
          rw [fillFrom_of_no_key value hread, fillFrom_of_no_key value hnone, ih (Nat.zero_le _),
            List.cons_append]
        | some found =>
          obtain ⟨key, after⟩ := found
          have hsame : key? (before ++ '{' :: rest) = some (key, after ++ '{' :: rest) := by
            simp [key?_append_open, hread]
          have hwithin : key.length + 1 ≤ before.length := by
            simp [(key?_eq_some_iff.1 hread).2]
          rw [fillFrom_of_key value hread, fillFrom_of_key value hsame, ih hwithin,
            List.append_assoc]
      · rw [List.cons_append, fillFrom_of_ne value hopen, fillFrom_of_ne value hopen,
          ih (Nat.zero_le _), List.cons_append]

/-- Where no brace opens a placeholder, every character stays. -/
theorem fillFrom_eq_self {cs : List Char}
    (h : ∀ rest, '{' :: rest <:+ cs → key? rest = none) : fillFrom value 0 cs = cs := by
  induction cs with
  | nil => rfl
  | cons c cs ih =>
    have hrest := ih fun rest hsuffix => h rest (hsuffix.trans (List.suffix_cons c cs))
    by_cases hopen : c = '{'
    · subst hopen
      rw [fillFrom_of_no_key value (h cs (List.suffix_refl _)), hrest]
    · rw [fillFrom_of_ne value hopen, hrest]

end Fill

variable {values : Table String}

/-- What stands around a placeholder is filled in as if it stood alone. An opening brace ends any
key before it, so nothing on the left reaches into the placeholder. -/
theorem fill_append_placeholder {key : String} (hkey : IsKey key) (before after : String) :
    fill (before ++ placeholder key ++ after) values =
      fill before values ++ (values.get? key).getD "" ++ fill after values := by
  rw [← String.toList_inj]
  have hplaceholder := fillFrom_placeholder (fun key => ((values.get? key).getD "").toList) hkey
  have hopen := fillFrom_append_open (fun key => ((values.get? key).getD "").toList)
    (Nat.zero_le before.toList.length)
  simp only [toList_placeholder, List.cons_append, List.append_assoc, List.nil_append]
    at hplaceholder
  simp [fill, hopen, hplaceholder]

theorem IsLiteral.fill_eq {template : String} (h : IsLiteral template) :
    fill template values = template := by
  rw [fill, fillFrom_eq_self _ (isLiteral_iff.1 h), String.ofList_toList]

/-! ### Texts without braces -/

/-- The text has no braces. -/
def Braceless (text : String) : Prop := '{' ∉ text.toList ∧ '}' ∉ text.toList

instance (text : String) : Decidable (Braceless text) :=
  inferInstanceAs (Decidable ('{' ∉ text.toList ∧ '}' ∉ text.toList))

theorem Braceless.isLiteral {text : String} (h : Braceless text) : IsLiteral text := by
  rw [isLiteral_iff]
  intro rest hsuffix
  exact absurd (hsuffix.subset List.mem_cons_self) h.1

/-- Braces around anything but a key are no placeholder. -/
theorem isLiteral_of_not_isKey {before key after : String} (hbefore : Braceless before)
    (hbraceless : Braceless key) (hafter : Braceless after) (hkey : ¬ IsKey key) :
    IsLiteral (before ++ placeholder key ++ after) := by
  rw [isLiteral_iff]
  rintro rest ⟨passed, hsplit⟩
  have honly : '{' ∉ key.toList ++ '}' :: after.toList := by
    simp [hbraceless.1, hafter.1]
  simp only [String.toList_append, toList_placeholder, List.append_assoc, List.cons_append,
    List.nil_append] at hsplit
  obtain ⟨_, _, hrest⟩ := (List.append_cons_inj_of_notMem hbefore.1 honly).1 hsplit.symm
  subst hrest
  cases hread : key? (key.toList ++ '}' :: after.toList) with
  | none => rfl
  | some found =>
    obtain ⟨hfound, hclose⟩ := key?_eq_some_iff.1 hread
    obtain ⟨hsame, _⟩ := (List.append_cons_inj_of_notMem hbraceless.2 hafter.2).1 hclose
    rw [← hsame] at hfound
    exact absurd (isKey_iff.2 hfound) hkey

/-- Between texts without braces, a key in braces gives way to its value if it can be one. -/
theorem fill_braceless {before key after : String} (hbefore : Braceless before)
    (hbraceless : Braceless key) (hafter : Braceless after) :
    fill (before ++ placeholder key ++ after) values =
      if IsKey key then before ++ (values.get? key).getD "" ++ after
      else before ++ placeholder key ++ after := by
  split
  · rename_i hkey
    rw [fill_append_placeholder hkey, hbefore.isLiteral.fill_eq, hafter.isLiteral.fill_eq]
  · rename_i hkey
    exact (isLiteral_of_not_isKey hbefore hbraceless hafter hkey).fill_eq

/-! ### The whole template -/

/-- Templates are filled in one pass. Whatever stands around a placeholder, what is before it and
what follows it are filled in as if they stood alone, and the value under its key, or nothing if
there is none, goes in between as it is. A template without placeholders is left alone, whatever
braces it has. -/
theorem fill_in_one_pass (values : Table String) :
    (∀ before key after : String, IsKey key →
      fill (before ++ placeholder key ++ after) values =
        fill before values ++ (values.get? key).getD "" ++ fill after values) ∧
    (∀ template : String, IsLiteral template → fill template values = template) ∧
    ∀ before key after : String, IsLiteral before → IsKey key → IsLiteral after →
      fill (before ++ placeholder key ++ after) values =
        before ++ (values.get? key).getD "" ++ after := by
  refine ⟨?_, ?_, ?_⟩
  · intro before key after hkey
    exact fill_append_placeholder hkey before after
  · intro template hliteral
    exact hliteral.fill_eq
  · intro before key after hbefore hkey hafter
    rw [fill_append_placeholder hkey, hbefore.fill_eq, hafter.fill_eq]

/-- A value that looks like a placeholder, between braces of all kinds: with `{b}` under `a`, the
template `{{b{a}}{}` comes to `{{b{b}}{}`, and the `{b}` that was put in is not filled in again. -/
theorem filled_around_braces :
    let values := (Table.empty.insert "a" (placeholder "b")).insert "b" "2"
    IsKey "a" ∧ IsKey "b" ∧ IsLiteral "\x7b\x7bb" ∧ IsLiteral "\x7d\x7b\x7d" ∧
      fill ("\x7b\x7bb" ++ placeholder "a" ++ "\x7d\x7b\x7d") values =
        "\x7b\x7bb" ++ placeholder "b" ++ "\x7d\x7b\x7d" ∧
      fill (placeholder "a" ++ placeholder "b" ++ "\x7d") values =
        fill (placeholder "a") values ++ "2" ++ fill "\x7d" values ∧
      fill "\x7d\x7b\x7d" values = "\x7d\x7b\x7d" := by
  intro values
  have ha : IsKey "a" := by decide
  have hb : IsKey "b" := by decide
  have hbefore : IsLiteral "\x7b\x7bb" := by decide
  have hafter : IsLiteral "\x7d\x7b\x7d" := by decide
  obtain ⟨hparts, hliteral, hbetween⟩ := fill_in_one_pass values
  exact ⟨ha, hb, hbefore, hafter, hbetween _ "a" _ hbefore ha hafter, hparts _ "b" _ hb,
    hliteral _ hafter⟩

end CommandBot.Template
