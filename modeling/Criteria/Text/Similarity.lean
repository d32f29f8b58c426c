/-! # Similarity of two sequences

How much of two sequences matches, block by block.

* `agreement` — how far two sequences agree from their start;
* `places` — where in the second sequence an element may start or continue a run;
* `longestRun` — the longest run of matching elements;
* `longestBlock` — the longest run, with the elements beside it that agree as well;
* `matched` — the number of elements in matching blocks, left and right of the longest one in turn;
* `Ratio`, `ratio` — twice the matched elements over all elements.

Elements that are very frequent in a long second sequence are in no run, but they may lengthen a
block.  Of several longest runs the one that starts earliest in the first sequence is taken, and of
those the one that starts earliest in the second.  `left_add_size_longestBlock_le` says that a block
lies inside the first sequence, so the two searches beside it are on shorter sequences.
-/

namespace Criteria.Text

variable {α : Type} [DecidableEq α]

/-! ## Agreement from the start -/

/-- How many leading elements two sequences share. -/
def agreement : List α → List α → Nat
  | x :: xs, y :: ys => if x = y then agreement xs ys + 1 else 0
  | _, _ => 0

theorem agreement_le_length (xs ys : List α) : agreement xs ys ≤ xs.length := by
  induction xs generalizing ys with
  | nil => simp [agreement]
  | cons x xs ih =>
    cases ys with
    | nil => simp [agreement]
    | cons y ys =>
      have := ih ys
      simp only [agreement, List.length_cons]
      split <;> omega

/-- What two sequences share from their start is in both of them. -/
theorem take_agreement (xs ys : List α) :
    xs.take (agreement xs ys) = ys.take (agreement xs ys) := by
  induction xs generalizing ys with
  | nil => simp [agreement]
  | cons x xs ih =>
    cases ys with
    | nil => simp [agreement]
    | cons y ys =>
      simp only [agreement]
      split
      next h => rw [List.take_succ_cons, List.take_succ_cons, ih, h]
      next => rfl

/-! ## Places of an element -/

/-- Whether an element fills more than a hundredth of a sequence of two hundred elements or more. -/
def isPopular (ys : List α) (y : α) : Bool :=
  decide (200 ≤ ys.length) && decide (ys.length / 100 + 1 < ys.count y)

/-- The places of an element in a sequence whose first place has the given number. -/
def placesFrom (x : α) : Nat → List α → List Nat
  | _, [] => []
  | j, y :: ys => if y = x then j :: placesFrom x (j + 1) ys else placesFrom x (j + 1) ys

/-- The places of an element in a sequence, none for a popular one. -/
def places (ys : List α) (x : α) : List Nat :=
  if isPopular ys x then [] else placesFrom x 0 ys

/-! ## The longest run -/

/-- A common block: where it starts in each of two sequences, and its size. -/
structure Block where
  left : Nat
  right : Nat
  size : Nat
deriving DecidableEq, Repr

/-- The length of the run that ends just before place `j`, if it is the first of some runs. -/
def lengthBefore (j : Nat) : List (Nat × Nat) → Nat
  | [] => 0
  | r :: _ => if r.1 + 1 = j then r.2 else 0

/-- For each of some places, the length of the run that ends there, from the lengths of the runs
that end at the element before.  Both lists are in the order of the places. -/
def runs (before : List (Nat × Nat)) : List Nat → List (Nat × Nat)
  | [] => []
  | j :: js =>
    let near := before.dropWhile fun r => r.1 + 1 < j
    (j, lengthBefore j near + 1) :: runs near js

/-- The longer of a block and the run of length `k` that ends at places `i` and `j`; the block if
both are equally long. -/
def longer (i : Nat) (best : Block) : Nat × Nat → Block
  | (j, k) => if best.size < k then ⟨i + 1 - k, j + 1 - k, k⟩ else best

/-- The longest of a block and of all runs that end at an element from place `i` on, given where
each of these elements may be matched. -/
def longestFrom (best : Block) (before : List (Nat × Nat)) (i : Nat) : List (List Nat) → Block
  | [] => best
  | places :: rest =>
    let here := runs before places
    longestFrom (here.foldl (longer i) best) here (i + 1) rest

/-- The first of the longest runs, given where each element of the first sequence may be matched;
the empty block at the start when there is none. -/
def longestRun (rows : List (List Nat)) : Block :=
  longestFrom ⟨0, 0, 0⟩ [] 0 rows

/-! ## The longest block -/

/-- The block around a split of two sequences: the elements that agree before the split, and those
that agree after it. -/
def blockAround (xsBefore xsAfter ysBefore ysAfter : List α) : Block :=
  let before := agreement xsBefore.reverse ysBefore.reverse
  ⟨xsBefore.length - before, ysBefore.length - before, before + agreement xsAfter ysAfter⟩

/-- The block around the places `i` and `j` of two sequences. -/
def blockAt (xs ys : List α) (i j : Nat) : Block :=
  blockAround (xs.take i) (xs.drop i) (ys.take j) (ys.drop j)

/-- The places that lie in a window of the given start and length, counted from its start. -/
def within (start length : Nat) (places : List Nat) : List Nat :=
  (places.filter fun j => start ≤ j && j < start + length).map (· - start)

/-- The longest run in a window of the second sequence, given where each element of the first one
may be matched in all of it. -/
def longestRunWithin (start length : Nat) (rows : List (List Nat)) : Block :=
  longestRun (rows.map (within start length))

/-- The longest block of two sequences.  Each element of the first one comes with its places in a
sequence of which the second one is a window. -/
def longestBlock (xs : List (α × List Nat)) (start : Nat) (ys : List α) : Block :=
  let run := longestRunWithin start ys.length (xs.map (·.2))
  blockAt (xs.map (·.1)) ys run.left run.right

theorem left_add_size_blockAt_le (xs ys : List α) (i j : Nat) :
    (blockAt xs ys i j).left + (blockAt xs ys i j).size ≤ xs.length := by
  have before := agreement_le_length (xs.take i).reverse (ys.take j).reverse
  have after := agreement_le_length (xs.drop i) (ys.drop j)
  simp only [List.length_reverse, List.length_take, List.length_drop] at before after
  simp only [blockAt, blockAround, List.length_take]
  omega

theorem left_add_size_longestBlock_le (xs : List (α × List Nat)) (start : Nat) (ys : List α) :
    (longestBlock xs start ys).left + (longestBlock xs start ys).size ≤ xs.length := by
  have := left_add_size_blockAt_le (xs.map (·.1)) ys
    (longestRunWithin start ys.length (xs.map (·.2))).left
    (longestRunWithin start ys.length (xs.map (·.2))).right
  simpa [longestBlock] using this

/-! ## Matched elements -/

/-- The number of elements in matching blocks: those of the longest block, and those matched before
it and after it. -/
def matched (xs : List (α × List Nat)) (start : Nat) (ys : List α) : Nat :=
  let b := longestBlock xs start ys
  if b.size = 0 then
    0
  else
    matched (xs.take b.left) start (ys.take b.right) + b.size
      + matched (xs.drop (b.left + b.size)) (start + b.right + b.size)
        (ys.drop (b.right + b.size))
termination_by xs.length
decreasing_by
  all_goals
    have := left_add_size_longestBlock_le xs start ys
    have : (longestBlock xs start ys).size ≠ 0 := by assumption
    simp only [List.length_take, List.length_drop]
    omega

/-! ## Ratios -/

/-- The share `2 · matched / total`; everything is shared when there is nothing. -/
structure Ratio where
  matched : Nat
  total : Nat
deriving DecidableEq, Repr

namespace Ratio

/-- Numerator and denominator of a ratio. -/
def fraction (r : Ratio) : Nat × Nat :=
  if r.total = 0 then (1, 1) else (2 * r.matched, r.total)

/-- The order of ratios as fractions. -/
def le (r s : Ratio) : Bool :=
  decide (r.fraction.1 * s.fraction.2 ≤ s.fraction.1 * r.fraction.2)

/-- Whether a ratio is three fifths or more. -/
def isClose (r : Ratio) : Bool :=
  decide (3 * r.fraction.2 ≤ 5 * r.fraction.1)

end Ratio

/-- The elements of a sequence, each with its places in another one. -/
def placed (xs ys : List α) : List (α × List Nat) :=
  xs.map fun x => (x, places ys x)

/-- The ratio of `xs` to the sequence `ys`, whose popular elements are in no run. -/
def ratio (xs ys : List α) : Ratio :=
  ⟨matched (placed xs ys) 0 ys, xs.length + ys.length⟩

/-! ## Upper bounds -/

/-- How many elements two sequences share, whatever their order. -/
def shared : List α → List α → Nat
  | [], _ => 0
  | x :: xs, ys => if x ∈ ys then shared xs (ys.erase x) + 1 else shared xs ys

/-- The ratio two sequences would have if all shared elements matched. -/
def sharedRatio (xs ys : List α) : Ratio :=
  ⟨shared xs ys, xs.length + ys.length⟩

/-- The ratio two sequences would have if all of the shorter one matched. -/
def lengthRatio (xs ys : List α) : Ratio :=
  ⟨min xs.length ys.length, xs.length + ys.length⟩

/-- Whether both upper bounds of the ratio of two sequences are three fifths or more. -/
def mayBeClose (xs ys : List α) : Bool :=
  (lengthRatio xs ys).isClose && (sharedRatio xs ys).isClose

end Criteria.Text
