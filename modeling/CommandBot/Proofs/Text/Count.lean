import CommandBot.Text.Count
import Mathlib.Data.Nat.Digits.Defs

namespace CommandBot.Text

/-- Decimal digits only. -/
def AreDigits (cs : List Char) : Prop := ∀ c ∈ cs, '0' ≤ c ∧ c ≤ '9'

instance (cs : List Char) : Decidable (AreDigits cs) :=
  decidable_of_iff (cs.all (fun c => '0' ≤ c && c ≤ '9') = true) (by simp [AreDigits])

/-- The number that decimal digits denote, the last of them being the ones. -/
def decimal (digits : List Char) : Nat :=
  Nat.ofDigits 10 (digits.reverse.map fun c => c.toNat - '0'.toNat)

theorem decimal_cons (c : Char) (cs : List Char) :
    decimal (c :: cs) = (c.toNat - '0'.toNat) * 10 ^ cs.length + decimal cs := by
  unfold decimal
  rw [List.reverse_cons, List.map_append, Nat.ofDigits_append, List.map_singleton,
    Nat.ofDigits_singleton, List.length_map, List.length_reverse, Nat.mul_comm, Nat.add_comm]

theorem held?_eq_some_iff {n m : Nat} : held? n = some m ↔ n < countLimit ∧ n = m := by
  unfold held?
  split
  · rename_i hheld
    simp [hheld]
  · rename_i hheld
    simp [hheld]

/-- A digit is an ASCII digit, and its value is its distance from zero. -/
theorem digitValue?_eq_some_iff {c : Char} {d : Nat} :
    digitValue? c = some d ↔ ('0' ≤ c ∧ c ≤ '9') ∧ c.toNat - '0'.toNat = d := by
  unfold digitValue?
  split
  · rename_i hdigit
    simp only [Bool.and_eq_true, decide_eq_true_eq] at hdigit
    simp [hdigit]
  · rename_i hdigit
    simp only [Bool.and_eq_true, decide_eq_true_eq] at hdigit
    simp [hdigit]

/-- Taking one digit more is a Horner step, so the number in the end does not depend on how far the
count has come. -/
theorem shifted_decimal (count : Nat) (c : Char) (cs : List Char) :
    count * 10 ^ (c :: cs).length + decimal (c :: cs) =
      (count * 10 + (c.toNat - '0'.toNat)) * 10 ^ cs.length + decimal cs := by
  rw [decimal_cons, List.length_cons, Nat.pow_succ]
  ring

/-- By induction on the digits. The count so far never exceeds the number in the end, so where that
is held, each product and each sum on the way is. -/
theorem appendDigits?_eq_some_iff {count n : Nat} (hcount : count < countLimit) {cs : List Char} :
    appendDigits? count cs = some n ↔
      AreDigits cs ∧ count * 10 ^ cs.length + decimal cs = n ∧ n < countLimit := by
  induction cs generalizing count with
  | nil =>
    have hnothing : AreDigits [] := by simp [AreDigits]
    have hvalue : count * 10 ^ ([] : List Char).length + decimal [] = count := by simp [decimal]
    rw [appendDigits?, Option.some.injEq, hvalue]
    constructor
    · rintro rfl
      exact ⟨hnothing, rfl, hcount⟩
    · rintro ⟨_, rfl, _⟩
      rfl
  | cons c cs ih =>
    simp only [appendDigits?, Option.bind_eq_bind, Option.bind_eq_some_iff,
      digitValue?_eq_some_iff, held?_eq_some_iff]
    rw [shifted_decimal]
    constructor
    · rintro ⟨_, ⟨hc, rfl⟩, _, ⟨_, rfl⟩, _, ⟨hnext, rfl⟩, happend⟩
      obtain ⟨hcs, hvalue, hn⟩ := (ih hnext).1 happend
      exact ⟨List.forall_mem_cons.2 ⟨hc, hcs⟩, hvalue, hn⟩
    · rintro ⟨hdigits, hvalue, hn⟩
      obtain ⟨hc, hcs⟩ := List.forall_mem_cons.1 hdigits
      have hpower : 0 < 10 ^ cs.length := Nat.pow_pos (by decide)
      have hgrows : count * 10 + (c.toNat - '0'.toNat) ≤ n := by
        have hshift := Nat.le_mul_of_pos_right (count * 10 + (c.toNat - '0'.toNat)) hpower
        omega
      have hnext : count * 10 + (c.toNat - '0'.toNat) < countLimit := by omega
      have hshifted : count * 10 < countLimit := by omega
      exact ⟨_, ⟨hc, rfl⟩, _, ⟨hshifted, rfl⟩, _, ⟨hnext, rfl⟩, (ih hnext).2 ⟨hcs, hvalue, hn⟩⟩

/-- Digits are counted exactly if there are any and a machine word holds the number that they
denote. Since a number only grows as digits are appended, no step on the way fails that the whole
numeral would survive. -/
theorem count?_eq_some_iff {digits : List Char} {n : Nat} :
    count? digits = some n ↔
      digits ≠ [] ∧ AreDigits digits ∧ decimal digits = n ∧ n < countLimit := by
  unfold count?
  split
  · rename_i hempty
    simp [List.isEmpty_iff.1 hempty]
  · rename_i hempty
    have hne : digits ≠ [] := by simpa using hempty
    have hzero : 0 < countLimit := by decide
    rw [appendDigits?_eq_some_iff hzero, Nat.zero_mul, Nat.zero_add]
    simp [hne]

/-- A text writes a number: in decimal digits, at least one of them and leading zeros allowed, with
or without a plus sign before them. -/
def Writes (text : String) (n : Nat) : Prop :=
  ∃ digits, (text.toList = digits ∨ text.toList = '+' :: digits) ∧ digits ≠ [] ∧
    AreDigits digits ∧ decimal digits = n

theorem plus_notMem_of_areDigits {cs : List Char} (h : AreDigits cs) : '+' ∉ cs := by
  intro hmem
  exact absurd (h '+' hmem) (by decide)

/-- A text writes one number at most: a plus sign is no digit. -/
theorem Writes.unique {text : String} {n m : Nat} (hn : Writes text n) (hm : Writes text m) :
    n = m := by
  obtain ⟨digits, hspelled, _, hdigits, rfl⟩ := hn
  obtain ⟨others, hother, _, hothers, rfl⟩ := hm
  have hplus := plus_notMem_of_areDigits hdigits
  have hnoplus := plus_notMem_of_areDigits hothers
  rcases hspelled with hspelled | hspelled
  · rcases hother with hother | hother
    · rw [← hspelled, hother]
    · rw [← hspelled, hother] at hplus
      exact absurd List.mem_cons_self hplus
  · rcases hother with hother | hother
    · rw [← hother, hspelled] at hnoplus
      exact absurd List.mem_cons_self hnoplus
    · rw [hspelled] at hother
      rw [(List.cons.inj hother).2]

end CommandBot.Text
