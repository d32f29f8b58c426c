/-! # Decimal numbers

Non-integral numbers of a configuration are kept as the decimal they are written as.

* `Decimal` — not a number, the two infinities, or `± coefficient · 10 ^ exponent`;
* `Decimal.ofDigits` — the decimal of a digit string, with no trailing zero in its coefficient;
* `Decimal.isZero` — whether a decimal is a zero of either sign.

A coefficient built by `ofDigits` ends in no zero, so two decimals that denote one number other
than zero are equal.
-/

namespace Criteria

/-- A decimal number, with signed zeros, infinities and a value that is not a number. -/
inductive Decimal where
  /-- The value that is not a number. -/
  | nan
  /-- An infinity. -/
  | infinite (negative : Bool)
  /-- The number `± coefficient · 10 ^ exponent`. -/
  | finite (negative : Bool) (coefficient : Nat) (exponent : Int)
deriving DecidableEq, Repr

namespace Decimal

/-! ## Building -/

/-- The number that a string of decimal digits denotes; other characters count as zero. -/
def natOfDigits (digits : List Char) : Nat :=
  digits.foldl (fun n d => 10 * n + (if d.isDigit then d.toNat - '0'.toNat else 0)) 0

/-- The decimal `± digits · 10 ^ exponent`, with the trailing zeros of `digits` moved into the
exponent and the exponent of zero set to zero. -/
def ofDigits (negative : Bool) (digits : List Char) (exponent : Int) : Decimal :=
  let kept := (digits.reverse.dropWhile (· == '0')).reverse
  let coefficient := natOfDigits kept
  if coefficient = 0 then
    .finite negative 0 0
  else
    .finite negative coefficient (exponent + ((digits.length - kept.length : Nat) : Int))

/-! ## Reading a number off -/

/-- Whether a decimal is a zero of either sign. -/
def isZero : Decimal → Bool
  | .finite _ coefficient _ => coefficient == 0
  | _ => false

/-- A power of ten. -/
def powerOfTen (n : Nat) : Nat := Nat.pow 10 n

/-- The integer `± magnitude`. -/
def signed (negative : Bool) (magnitude : Nat) : Int :=
  if negative then -(magnitude : Int) else magnitude

@[simp] theorem isZero_nan : isZero .nan = false := rfl
@[simp] theorem isZero_infinite (negative : Bool) : isZero (.infinite negative) = false := rfl

end Decimal

end Criteria
