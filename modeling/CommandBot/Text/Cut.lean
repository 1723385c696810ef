/-!
Looking for one text inside another: at its start, anywhere, and cutting at the first place.
-/

namespace CommandBot.Text

/-- What follows `lead`, if the text starts with it. -/
def after? (lead text : String) : Option String :=
  (lead.toList.isPrefixOf? text.toList).map String.ofList

/-- The characters of `part` stand somewhere in `whole`, one after the other. -/
def occursIn (part : List Char) : List Char → Bool
  | [] => part.isEmpty
  | c :: cs => part.isPrefixOf (c :: cs) || occursIn part cs

theorem occursIn_iff {part whole : List Char} : occursIn part whole = true ↔ part <:+: whole := by
  induction whole with
  | nil => rw [occursIn, List.isEmpty_iff, List.infix_nil]
  | cons c cs ih =>
    rw [occursIn, Bool.or_eq_true, List.isPrefixOf_iff_prefix, ih, List.infix_cons_iff]

/-- `part` occurs in `text`. -/
def contains (text part : String) : Bool :=
  occursIn part.toList text.toList

/-- Cuts at the first place where `mark` stands: what is before it and what is after it. -/
def splitAt? (mark : List Char) : List Char → Option (List Char × List Char)
  | [] => if mark.isEmpty then some ([], []) else none
  | c :: cs =>
    match mark.isPrefixOf? (c :: cs) with
    | some rest => some ([], rest)
    | none => (splitAt? mark cs).map fun (before, rest) => (c :: before, rest)

/-- Cuts a text at the first `mark`. -/
def cut? (mark text : String) : Option (String × String) :=
  (splitAt? mark.toList text.toList).map fun (before, rest) =>
    (String.ofList before, String.ofList rest)

/-- Cuts at every `mark`: one piece more than there are marks. -/
def splitOn {α : Type} [DecidableEq α] (mark : α) : List α → List (List α)
  | [] => [[]]
  | x :: xs =>
    if x = mark then [] :: splitOn mark xs
    else match splitOn mark xs with
      | [] => [[x]]
      | piece :: pieces => (x :: piece) :: pieces

/-- The text without any `c`. -/
def without (c : Char) (text : String) : String :=
  String.ofList (text.toList.filter (· != c))

end CommandBot.Text
