namespace CommandBot

/-- The third list is an interleaving of the first two: it holds all of both, each in its own order.
-/
inductive Interleaves {α : Type} : List α → List α → List α → Prop where
  | nil : Interleaves [] [] []
  | left {xs ys zs : List α} (x : α) : Interleaves xs ys zs → Interleaves (x :: xs) ys (x :: zs)
  | right {xs ys zs : List α} (y : α) : Interleaves xs ys zs → Interleaves xs (y :: ys) (y :: zs)

namespace Interleaves

variable {α : Type} {xs ys zs : List α}

theorem swap (h : Interleaves xs ys zs) : Interleaves ys xs zs := by
  induction h with
  | nil => exact .nil
  | left x _ ih => exact .right x ih
  | right y _ ih => exact .left y ih

theorem of_left (xs : List α) : Interleaves xs [] xs := by
  induction xs with
  | nil => exact .nil
  | cons x xs ih => exact .left x ih

theorem of_right (ys : List α) : Interleaves [] ys ys := (of_left ys).swap

/-- Interleavings one after the other make an interleaving, so whatever is put before or behind one
is put there as an interleaving of its own. -/
theorem join {xs' ys' zs' : List α} (h : Interleaves xs ys zs) (hlater : Interleaves xs' ys' zs') :
    Interleaves (xs ++ xs') (ys ++ ys') (zs ++ zs') := by
  induction h with
  | nil => exact hlater
  | left x _ ih => exact .left x ih
  | right y _ ih => exact .right y ih

theorem append (xs ys : List α) : Interleaves xs ys (xs ++ ys) := by
  simpa using (of_left xs).join (of_right ys)

theorem append_left (h : Interleaves xs ys zs) (lead : List α) :
    Interleaves (lead ++ xs) ys (lead ++ zs) :=
  (of_left lead).join h

theorem concat_left (h : Interleaves xs ys zs) (x : α) :
    Interleaves (xs ++ [x]) ys (zs ++ [x]) := by
  simpa using h.join (of_left [x])

theorem concat_right (h : Interleaves xs ys zs) (y : α) :
    Interleaves xs (ys ++ [y]) (zs ++ [y]) :=
  (h.swap.concat_left y).swap

theorem eq_of_nil_left (h : Interleaves [] ys zs) : zs = ys := by
  generalize hnil : ([] : List α) = xs at h
  induction h with
  | nil => rfl
  | left => cases hnil
  | right y _ ih => rw [ih hnil]

end Interleaves

end CommandBot
