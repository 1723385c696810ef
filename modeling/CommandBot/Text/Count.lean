/-!
Counts: numbers that a machine word holds, and the decimal digits that write them. Digits that write
a larger number write no count, so such a number is never taken for a smaller one.
-/

namespace CommandBot.Text

/-- The first number that is too large for a machine word. A word has 64 bits. -/
def countLimit : Nat := Nat.pow 2 64

/-- A number, if a machine word holds it. -/
def held? (n : Nat) : Option Nat :=
  if n < countLimit then some n else none

/-- The value of a decimal digit. -/
def digitValue? (c : Char) : Option Nat :=
  if '0' ≤ c && c ≤ '9' then some (c.toNat - '0'.toNat) else none

/-- Appends decimal digits to a count, one by one. Neither the multiplication nor the addition may
leave the machine word. -/
def appendDigits? (count : Nat) : List Char → Option Nat
  | [] => some count
  | c :: cs => do
    let digit ← digitValue? c
    let shifted ← held? (count * 10)
    let next ← held? (shifted + digit)
    appendDigits? next cs

/-- The count that decimal digits write, at least one of them. -/
def count? (digits : List Char) : Option Nat :=
  if digits.isEmpty then none else appendDigits? 0 digits

end CommandBot.Text
