import Criteria.Decimal.Binary

/-! # Decimal notation

How a decimal is written and read back.

* `Decimal.Layout` — the choices of a notation; `Decimal.layout` is the one used throughout;
* `Decimal.text` — the text of a decimal;
* `Decimal.read?` — the decimal that a text denotes, rounded, `none` when it is no number.

A number whose first digit stands for a power of ten from `layout.positionalFrom` up to, but not
including, `layout.positionalBelow` is written positionally with at least one digit after the
point; any other is written with an exponent.
-/

namespace Criteria.Decimal

/-! ## The layout -/

/-- The choices that fix how the digits of a decimal are laid out. -/
structure Layout where
  /-- The least leading power of ten that is written positionally. -/
  positionalFrom : Int
  /-- The first leading power of ten that is written with an exponent again. -/
  positionalBelow : Int
  /-- How many digits an exponent has at least. -/
  exponentWidth : Nat
  /-- The text of the value that is not a number. -/
  nanText : String
  /-- The text of the positive infinity. -/
  infinityText : String

/-- Numbers are positional from `0.0001` up to, but not including, `10 ^ 16`, and exponents carry
their sign and two digits or more. -/
def layout : Layout := ⟨-4, 16, 2, "nan", "inf"⟩

/-! ## Writing -/

/-- The text of `n` with zeros in front up to `width` digits. -/
def paddedDigits (width n : Nat) : List Char :=
  let digits := Nat.toDigits 10 n
  List.replicate (width - digits.length) '0' ++ digits

/-- The exponent mark of the power `n`, with its sign. -/
def exponentText (l : Layout) (n : Int) : List Char :=
  'e' :: (if n < 0 then '-' else '+') :: paddedDigits l.exponentWidth n.natAbs

/-- A fraction point in front of `digits`; nothing when there are none. -/
def fractionText : List Char → List Char
  | [] => []
  | digits => '.' :: digits

/-- The digits of a nonnegative number, laid out by `l`. -/
def magnitudeText (l : Layout) (coefficient : Nat) (exponent : Int) : List Char :=
  let digits := Nat.toDigits 10 coefficient
  let leading := exponent + ((digits.length - 1 : Nat) : Int)
  if l.positionalFrom ≤ leading ∧ leading < l.positionalBelow then
    if 0 ≤ exponent then
      -- all digits stand before the point
      digits ++ List.replicate exponent.toNat '0' ++ ['.', '0']
    else if 0 ≤ leading then
      -- the point falls between two digits
      digits.take (leading + 1).toNat ++ '.' :: digits.drop (leading + 1).toNat
    else
      -- zeros fill the places between the point and the first digit
      '0' :: '.' :: List.replicate (-leading - 1).toNat '0' ++ digits
  else
    digits.take 1 ++ fractionText (digits.drop 1) ++ exponentText l leading

/-- The sign in front of a number. -/
def signText (negative : Bool) : List Char :=
  if negative then ['-'] else []

/-- The text of a decimal in the layout `l`. -/
def textIn (l : Layout) : Decimal → String
  | .nan => l.nanText
  | .infinite negative => String.ofList (signText negative ++ l.infinityText.toList)
  | .finite negative coefficient exponent =>
    String.ofList (signText negative ++ magnitudeText l coefficient exponent)

/-- The text of a decimal. -/
def text (x : Decimal) : String :=
  x.textIn layout

/-! ## Reading -/

/-- The sign in front of a text, and the rest. -/
def readSign : List Char → Bool × List Char
  | '-' :: rest => (true, rest)
  | '+' :: rest => (false, rest)
  | rest => (false, rest)

/-- The power of ten that an exponent mark gives: zero for the empty text. -/
def readExponent? : List Char → Option Int
  | [] => some 0
  | 'e' :: rest =>
    let (negative, digits) := readSign rest
    if digits ≠ [] ∧ digits.all Char.isDigit then
      some (signed negative (natOfDigits digits))
    else
      none
  | _ => none

/-- The digits after a fraction point, and the rest. -/
def readFraction : List Char → List Char × List Char
  | '.' :: rest => (rest.takeWhile Char.isDigit, rest.dropWhile Char.isDigit)
  | rest => ([], rest)

/-- Whether some characters are a word for infinity. -/
def isInfinityWord (cs : List Char) : Bool :=
  cs == layout.infinityText.toList || cs == "infinity".toList

/-- The decimal that a text denotes, rounded: the words for no number and for infinity, or digits
with an optional fraction and an optional exponent, in letters of either case. -/
def read? (s : String) : Option Decimal :=
  let (negative, body) := readSign (s.toList.map Char.toLower)
  if body = layout.nanText.toList then
    some .nan
  else if isInfinityWord body then
    some (.infinite negative)
  else
    let whole := body.takeWhile Char.isDigit
    let (fraction, rest) := readFraction (body.dropWhile Char.isDigit)
    if whole = [] ∧ fraction = [] then
      none
    else
      (readExponent? rest).map fun exponent =>
        (ofDigits negative (whole ++ fraction) (exponent - (fraction.length : Int))).rounded

end Criteria.Decimal
