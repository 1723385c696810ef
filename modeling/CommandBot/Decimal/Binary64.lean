/-!
Finite double-precision numbers as integers: a sign, a significand and a power of two, in the one
form that the format stores. Rounding is done on exact ratios of naturals.
-/

namespace CommandBot.Decimal

/-- A finite double: `significand * 2 ^ exponent`, negated if `negative`. The significand has 53
bits, or fewer at the least exponent, -1074. -/
structure Binary64 where
  negative : Bool
  significand : Nat
  exponent : Int
  deriving DecidableEq, Repr

namespace Binary64

/-- The least exponent, at which numbers lose leading bits. -/
def leastExponent : Int := -1074

/-- The greatest exponent. -/
def greatestExponent : Int := 971

/-- Zero without its sign. -/
def zero : Binary64 := ⟨false, 0, leastExponent⟩

/-- `n * 2 ^ e` as a ratio of naturals. -/
def scaled (n : Nat) (e : Int) : Nat × Nat :=
  (n * Nat.pow 2 e.toNat, Nat.pow 2 (-e).toNat)

/-- The quotient rounded to the nearest natural, a half to the even one. -/
def roundHalfEven (num den : Nat) : Nat :=
  let q := num / den
  let twice := 2 * (num % den)
  if twice < den || (twice == den && q % 2 == 0) then q else q + 1

/-- The exponent at which the ratio has 53 bits before the point, but not below the least one. -/
def exponentFor (num den : Nat) : Int :=
  let guess : Int := (Nat.log2 num : Int) - Nat.log2 den - 53
  let (a, b) := scaled den guess
  let e := if num * b < Nat.pow 2 53 * a then guess else guess + 1
  max e leastExponent

/-- The double nearest to `num / den`, ties to the even significand; nothing beyond the range. -/
def ofRatio? (num den : Nat) : Option Binary64 :=
  if num == 0 then some zero
  else
    let e := exponentFor num den
    let (a, b) := scaled den e
    let m := roundHalfEven (num * b) a
    let (m, e) := if m == Nat.pow 2 53 then (Nat.pow 2 52, e + 1) else (m, e)
    if e ≤ greatestExponent then some ⟨false, m, e⟩ else none

/-- The magnitude as a ratio. -/
def ratio (x : Binary64) : Nat × Nat :=
  scaled x.significand x.exponent

/-- The product, rounded once. -/
def times? (x y : Binary64) : Option Binary64 :=
  let (a, b) := x.ratio
  let (c, d) := y.ratio
  ofRatio? (a * c) (b * d)

/-- The quotient, rounded once. -/
def over? (x y : Binary64) : Option Binary64 :=
  let (a, b) := x.ratio
  let (c, d) := y.ratio
  ofRatio? (a * d) (b * c)

/-- The double nearest to a power of ten. -/
def tenTo? (n : Nat) : Option Binary64 :=
  ofRatio? (Nat.pow 10 n) 1

/-- The double read for `digits * 10 ^ exponent`: the digits are rounded to a double, and that is
multiplied or divided by a rounded power of ten. A power below -308 takes two divisions, and below
-616 nothing is left. There is none beyond the range. -/
def ofScientific? (digits : Nat) (exponent : Int) : Option Binary64 := do
  let x ← ofRatio? digits 1
  if digits == 0 || exponent < -616 then return zero
  else if 308 < exponent then none
  else if 0 ≤ exponent then x.times? (← tenTo? exponent.toNat)
  else if -308 ≤ exponent then x.over? (← tenTo? (-exponent).toNat)
  else (← x.over? (← tenTo? 308)).over? (← tenTo? (-exponent - 308).toNat)

end Binary64

end CommandBot.Decimal
