import Criteria.Text.LetterCase

/-! # Lower case

Lower-casing of whole texts.

* `lowerChar` — the lower-case form of one character, which may be longer than it;
* `endsWord` — whether a sigma between two pieces of text ends a word;
* `lower`, `lowercase` — the lower-case form of a text.

A capital sigma becomes a final sigma when the nearest letter before it has case and the nearest
one after it does not; characters in between that do not matter are passed over.
-/

namespace Criteria.Text

/-- The capital sigma, whose lower-case form depends on its place. -/
def capitalSigma : Char := 'Σ'

/-- The lower-case form of a character other than a sigma that ends a word. -/
def lowerChar (c : Char) : List Char :=
  if c = 'İ' then ['i', '\u0307'] else [simpleLower c]

/-- Whether the nearest character of `cs` that is not passed over is a letter with case. -/
def nextIsCased (cs : List Char) : Bool :=
  ((cs.dropWhile isCaseIgnorable).head?.map isCased).getD false

/-- Whether a sigma ends a word, given the reversed text before it and the text after it. -/
def endsWord (before after : List Char) : Bool :=
  nextIsCased before && !nextIsCased after

/-- The lower-case form of a text that stands after the reversed text `before`. -/
def lowerAfter (before : List Char) : List Char → List Char
  | [] => []
  | c :: rest =>
    (if c = capitalSigma ∧ endsWord before rest then ['ς'] else lowerChar c)
      ++ lowerAfter (c :: before) rest

/-- The lower-case form of a text. -/
def lower (cs : List Char) : List Char :=
  lowerAfter [] cs

/-- The lower-case form of a string. -/
def lowercase (s : String) : String :=
  String.ofList (lower s.toList)

@[simp] theorem lowerAfter_nil (before : List Char) : lowerAfter before [] = [] := rfl
@[simp] theorem lower_nil : lower [] = [] := rfl

end Criteria.Text
