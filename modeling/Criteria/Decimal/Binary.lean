import Criteria.Decimal.Basic

/-! # Decimals of binary precision

A decimal stands for the binary number nearest to it, and is the shortest one that does.

* `Decimal.roundDiv` — a quotient rounded to the nearest integer;
* `Decimal.nearest` — the binary number nearest to a quotient;
* `Decimal.shortest` — the shortest decimal that stands for a binary number;
* `Decimal.rounded` — the decimal in use for any decimal;
* `Decimal.integer?` — the integer that a decimal stands for, if there is one;
* `Decimal.addOne` — one more than a decimal.

Binary numbers have a sign, fifty-three significant digits and no digit below `2 ^ -1074`, so a
magnitude is measured in units of that size and is a natural number.  All rounding is to the
nearest, and of two that are equally near, to the even one.
-/

namespace Criteria.Decimal

/-! ## Rounding -/

/-- A power of two. -/
def powerOfTwo (n : Nat) : Nat := Nat.pow 2 n

/-- The quotient `n / d` rounded to the nearest integer, and to the even one of two. -/
def roundDiv (n d : Nat) : Nat :=
  let quotient := n / d
  let rest := 2 * (n % d)
  if rest < d ∨ (rest = d ∧ quotient % 2 = 0) then quotient else quotient + 1

/-- A rounded quotient is off by half a unit at most. -/
theorem roundDiv_near (n d : Nat) (h : 0 < d) :
    2 * (d * roundDiv n d) ≤ 2 * n + d ∧ 2 * n ≤ 2 * (d * roundDiv n d) + d := by
  have whole := Nat.div_add_mod n d
  have small := Nat.mod_lt n h
  simp only [roundDiv]
  split
  · omega
  · rw [Nat.mul_add]
    omega

/-- How many units make one. -/
def unitsPerOne : Nat := powerOfTwo 1074

/-- The first number of units that is too large. -/
def unitsLimit : Nat := powerOfTwo 2098

/-- How far apart binary numbers are around a number of units. -/
def gap (units : Nat) : Nat := powerOfTwo (units.log2 - 52)

/-- The binary number, in units, that is nearest to the quotient `n / d`. -/
def nearest (n d : Nat) : Nat :=
  let g := gap (n / d)
  g * roundDiv n (d * g)

/-! ## From decimals to binary numbers and back -/

/-- The binary number, in units, that is nearest to `coefficient · 10 ^ exponent`. -/
def units (coefficient : Nat) (exponent : Int) : Nat :=
  nearest (coefficient * powerOfTen exponent.toNat * unitsPerOne) (powerOfTen (-exponent).toNat)

/-- The least power of ten that a positive number of units is below. -/
def powerAbove (u : Nat) : Int :=
  -- no positive number of units is below `10 ^ -400`
  let digits := Nat.toDigits 10 (u * powerOfTen 400 / unitsPerOne)
  (digits.length : Int) - 400

/-- The coefficients of `10 ^ exponent` next to a number of units, the nearest one first. -/
def neighbours (u : Nat) (exponent : Int) : List Nat :=
  let n := u * powerOfTen (-exponent).toNat
  let d := unitsPerOne * powerOfTen exponent.toNat
  [roundDiv n d, n / d, n / d + 1]

/-- The coefficient with some digits that stands for a number of units, if there is one, with its
exponent. -/
def withDigits? (u digits : Nat) : Option (Nat × Int) :=
  let exponent := powerAbove u - digits
  ((neighbours u exponent).find? fun c => units c exponent == u).map fun c => (c, exponent)

/-- The coefficient and exponent with the fewest digits that stand for a positive number of units:
up to seventeen digits, or else all of them. -/
def shortest (u : Nat) : Nat × Int :=
  ((List.range' 1 17).findSome? (withDigits? u)).getD (u * Nat.pow 5 1074, -1074)

/-- The decimal that stands for a binary number. -/
def ofUnits (negative : Bool) (u : Nat) : Decimal :=
  if u = 0 then
    .finite negative 0 0
  else if unitsLimit ≤ u then
    .infinite negative
  else
    let (coefficient, exponent) := shortest u
    ofDigits negative (Nat.toDigits 10 coefficient) exponent

/-- The leading power of ten from which on every number is too large, and below whose negative
every number is nearest to zero. -/
def powerLimit : Int := 400

/-- The decimal that stands for the same binary number as a decimal, and is the shortest. -/
def rounded : Decimal → Decimal
  | .finite negative coefficient exponent =>
    let leading := exponent + ((Nat.toDigits 10 coefficient).length : Int)
    if coefficient = 0 ∨ leading < -powerLimit then .finite negative 0 0
    else if powerLimit < leading then .infinite negative
    else ofUnits negative (units coefficient exponent)
  | x => x

/-! ## Integers -/

/-- The integer that a decimal stands for; `none` for fractions, infinities and the value that is
not a number. -/
def integer? : Decimal → Option Int
  | .finite negative coefficient exponent =>
    let u := units coefficient exponent
    if u % unitsPerOne = 0 then some (signed negative (u / unitsPerOne)) else none
  | _ => none

/-- One more than a decimal, rounded. -/
def addOne : Decimal → Decimal
  | .finite negative coefficient exponent =>
    let total := signed negative (units coefficient exponent) + (unitsPerOne : Int)
    ofUnits (decide (total < 0)) (nearest total.natAbs 1)
  | x => x

@[simp] theorem integer?_nan : integer? .nan = none := rfl
@[simp] theorem integer?_infinite (negative : Bool) : integer? (.infinite negative) = none := rfl
@[simp] theorem addOne_nan : addOne .nan = .nan := rfl
@[simp] theorem addOne_infinite (negative : Bool) :
    addOne (.infinite negative) = .infinite negative := rfl

end Criteria.Decimal
