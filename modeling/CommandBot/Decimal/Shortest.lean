import CommandBot.Decimal.Binary64

/-!
Writing a double with the fewest digits that read back as the same double. The digits are searched
on the decimal grids of 1, 2, … 17 places; the form (positional or with an exponent) is decided by
the decimal exponent alone.
-/

namespace CommandBot.Decimal

/-- Digits `d₁d₂…` and the power of ten of `d₁`. -/
structure Digits where
  value : Nat
  exponent : Int
  deriving DecidableEq, Repr

/-- The power of ten of the first digit of a ratio. -/
def leadingPower (num den : Nat) : Int :=
  let bits : Int := (Nat.log2 num : Int) - Nat.log2 den
  let guess := (bits * 1233).fdiv 4096
  let atLeast (p : Int) : Bool := den * Nat.pow 10 p.toNat ≤ num * Nat.pow 10 (-p).toNat
  if atLeast (guess + 1) then guess + 1
  else if atLeast guess then guess
  else guess - 1

/-- `k * 10 ^ p` against `num / den`. -/
def compareGrid (k : Nat) (p : Int) (num den : Nat) : Ordering :=
  compare (k * Nat.pow 10 p.toNat * den) (num * Nat.pow 10 (-p).toNat)

/-- A decimal reads back as `x` when it lies within half a step of it; the ends count if the
significand is even. Below a power of two the step is half as long. -/
def readsBack (x : Binary64) (k : Nat) (p : Int) : Bool :=
  let low := 4 * x.significand -
    if x.significand == Nat.pow 2 52 && Binary64.leastExponent < x.exponent then 1 else 2
  let high := 4 * x.significand + 2
  let (lowNum, lowDen) := Binary64.scaled low (x.exponent - 2)
  let (highNum, highDen) := Binary64.scaled high (x.exponent - 2)
  let above := compareGrid k p lowNum lowDen
  let below := compareGrid k p highNum highDen
  if x.significand % 2 == 0 then above != .lt && below != .gt else above == .gt && below == .lt

/-- The nearer of the two grid points around `x` that reads back, a tie going to the even digit. -/
def gridPoint? (x : Binary64) (p : Int) : Option Nat :=
  let (num, den) := x.ratio
  let scaledNum := num * Nat.pow 10 (-p).toNat
  let scaledDen := den * Nat.pow 10 p.toNat
  let k := scaledNum / scaledDen
  let nearest := Binary64.roundHalfEven scaledNum scaledDen
  let other := if nearest == k then k + 1 else k
  if readsBack x nearest p then some nearest
  else if readsBack x other p then some other
  else none

/-- Drops zeros at the end. -/
def dropZeros : Nat → Nat → Nat
  | 0, k => k
  | fuel + 1, k => if k % 10 == 0 && k != 0 then dropZeros fuel (k / 10) else k

/-- Searches the grids of `places`, `places + 1`, … digits, at most `fuel` of them. -/
def shortestFrom (x : Binary64) (power : Int) (places : Nat) : Nat → Option Digits
  | 0 => none
  | fuel + 1 =>
    match gridPoint? x (power - places + 1) with
    | some k =>
      let power := if k == Nat.pow 10 places then power + 1 else power
      some ⟨dropZeros 17 k, power⟩
    | none => shortestFrom x power (places + 1) fuel

/-- The fewest digits that read back; 17 always do. -/
def shortest (x : Binary64) : Digits :=
  if x.significand == 0 then ⟨0, 0⟩
  else
    let (num, den) := x.ratio
    (shortestFrom x (leadingPower num den) 1 17).getD ⟨0, 0⟩

/-- Exponents from -5 to 15 are written positionally, always with a point. -/
def isPositional (exponent : Int) : Bool :=
  -5 ≤ exponent && exponent ≤ 15

/-- Writes digits with the point where the exponent puts it. -/
def positional (digits : List Char) (exponent : Int) : List Char :=
  if exponent < 0 then
    '0' :: '.' :: List.replicate (-exponent - 1).toNat '0' ++ digits
  else
    let whole := exponent.toNat + 1
    let fraction := digits.drop whole
    digits.take whole ++ List.replicate (whole - digits.length) '0' ++
      '.' :: if fraction.isEmpty then ['0'] else fraction

/-- Writes one digit before the point and a signed exponent. -/
def withExponent (digits : List Char) (exponent : Int) : List Char :=
  let mantissa := match digits with
    | d :: (f :: fs) => d :: '.' :: f :: fs
    | short => short
  let sign := if exponent < 0 then '-' else '+'
  mantissa ++ 'e' :: sign :: (Nat.toDigits 10 exponent.natAbs)

/-- A double as text: `1.0`, `-0.0`, `0.00001`, `1e-6`, `1e+16`. -/
def Binary64.text (x : Binary64) : String :=
  let d := shortest x
  let digits := Nat.toDigits 10 d.value
  let magnitude :=
    if isPositional d.exponent then positional digits d.exponent
    else withExponent digits d.exponent
  String.ofList (if x.negative then '-' :: magnitude else magnitude)

end CommandBot.Decimal
