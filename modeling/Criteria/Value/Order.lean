import Criteria.Value.Entries
import Criteria.Fault.Misuse

/-! # The order of values

Which values are equal, and which come before others.

* `Value.equals` — equality of contents: numbers by what they stand for, mappings in any order;
* `Value.less?` — whether a value comes before another one, if the two can be compared;
* `Value.sort` — values in order.

Numbers are compared with numbers, texts with texts, and sequences with sequences of their type by
the first items that differ.  Nothing else can be compared, and values can be put in order only if
any two of them can.
-/

namespace Criteria

namespace Decimal

/-- The place of a number in the order of all numbers: below, among or above the finite ones, and
there by its units.  The value that is not a number has no place. -/
def rank? : Decimal → Option (Int × Int)
  | .nan => none
  | .infinite negative => some (signed negative 1, 0)
  | .finite negative coefficient exponent => some (0, signed negative (units coefficient exponent))

end Decimal

namespace Value

/-! ## Equality of contents -/

mutual

/-- Whether two values have equal contents. -/
def equals : Value → Value → Bool
  | .list xs, .list ys => equalItems xs ys
  | .tuple xs, .tuple ys => equalItems xs ys
  | .map es, .map fs => es.length == fs.length && equalEntries es fs
  | a, b => a.sameKey b

/-- Whether two sequences have equal items. -/
def equalItems : List Value → List Value → Bool
  | [], [] => true
  | x :: xs, y :: ys => equals x y && equalItems xs ys
  | _, _ => false

/-- Whether all entries of a mapping are in another one. -/
def equalEntries : List (Value × Value) → Entries → Bool
  | [], _ => true
  | (k, v) :: es, fs =>
    (match Entries.get? fs k with
      | some w => equals v w
      | none => false) && equalEntries es fs

end

/-! ## Comparison -/

/-- The place of a number among all numbers; `none` for a value that is no number at all. -/
def rank? : Value → Option (Option (Int × Int))
  | .bool b => some (some (0, if b then Decimal.unitsPerOne else 0))
  | .int n => some (some (0, n * Decimal.unitsPerOne))
  | .float x => some x.rank?
  | _ => none

/-- Whether a number comes before another one; the value that is not a number never does. -/
def lessRank : Option (Int × Int) → Option (Int × Int) → Bool
  | some a, some b => decide (a.1 < b.1) || (a.1 == b.1 && decide (a.2 < b.2))
  | _, _ => false

mutual

/-- Whether a value comes before another one; `none` if they cannot be compared. -/
def less? : Value → Value → Option Bool
  | .list xs, .list ys => lessItems? xs ys
  | .tuple xs, .tuple ys => lessItems? xs ys
  | .str s, .str t => some (decide (s < t))
  | a, b => match a.rank?, b.rank? with
    | some m, some n => some (lessRank m n)
    | _, _ => none

/-- Whether a sequence comes before another one: by the first items that differ, or else by ending
earlier. -/
def lessItems? : List Value → List Value → Option Bool
  | [], ys => some (!ys.isEmpty)
  | _ :: _, [] => some false
  | x :: xs, y :: ys => if equals x y then lessItems? xs ys else less? x y

end

@[simp] theorem less?_str (s t : String) : less? (.str s) (.str t) = some (decide (s < t)) := by
  simp [less?]

/-! ## Values in order -/

/-- Whether any two of some values can be compared. -/
def areComparable : List Value → Bool
  | [] => true
  | v :: vs => (vs.all fun w => (less? w v).isSome) && areComparable vs

/-- Values in order; equal ones stay as they were. -/
def sort (vs : List Value) : Except Misuse (List Value) :=
  if areComparable vs then
    .ok (vs.mergeSort fun a b => !(less? b a).getD false)
  else
    .error .wrongType

end Value

end Criteria
