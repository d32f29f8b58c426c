import Criteria.Value.Pairs
import Criteria.Text.CloseMatches

/-! # Values as words

Which values can be compared as words with known ones, and how they are spelled.

* `Value.spelling` — the letters of a value, one for each of its elements;
* `Value.checkWord` — whether a value can be sought among known words;
* `Value.checkAgainst` — whether a value can be compared with another one.

A sequence or a mapping of one-letter texts is spelled like the text of these letters.  Only what is
compared at length is ever looked at by position, which a mapping does not allow.
-/

namespace Criteria.Value

/-! ## Spelling -/

/-- The letter that a value is; `none` for anything but a text of one character. -/
def letter? : Value → Option Char
  | .str s => match s.toList with
    | [c] => some c
    | _ => none
  | _ => none

/-- What a value is made of, as a word. -/
def spelling : Value → Text.Spelling
  | .str s => Text.spelling s
  | v => (v.elements?.getD []).map letter?

@[simp] theorem spelling_str (s : String) : spelling (.str s) = Text.spelling s := rfl

/-! ## Comparable values -/

/-- The elements of a value that has a length. -/
def sized? : Value → Option (List Value)
  | .options _ => none
  | v => v.elements?

/-- Checks that a value can be sought among known words: it has a length, and its elements may be
keys. -/
def checkWord (word : Value) : Except Misuse Unit :=
  match word.sized? with
  | some elements => if areKeys elements then .ok () else .error .wrongType
  | none => .error .wrongType

/-- Whether the longest run of two sequences leaves elements of both on the same side. -/
def leavesBoth (xs ys : List Value) : Bool :=
  let run := Text.longestRun ((Text.placed xs ys).map (·.2))
  (decide (0 < run.left) && decide (0 < run.right))
    || (decide (run.left + run.size < xs.length) && decide (run.right + run.size < ys.length))

/-- Checks that a value can be compared with a word.  The cheap bounds need a length, and then
elements that may be keys.  Where they do not decide, elements are looked at by position: all of
those of `candidate`, and those of `word` next to the longest run. -/
def checkAgainst (word candidate : Value) : Except Misuse Unit :=
  match word.sized?, candidate.sized? with
  | some ws, some cs =>
    let xs := keyForms cs
    let ys := keyForms ws
    if !(Text.lengthRatio xs ys).isClose then .ok ()
    else if !areKeys cs then .error .wrongType
    else if !(Text.sharedRatio xs ys).isClose then .ok ()
    else if (candidate.isMap && !cs.isEmpty) || (word.isMap && leavesBoth xs ys) then
      .error .missingKey
    else .ok ()
  | _, _ => .error .wrongType

@[simp] theorem sized?_str (s : String) :
    sized? (.str s) = some (s.toList.map fun c => .str (String.singleton c)) := rfl

end Criteria.Value
