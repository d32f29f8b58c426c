import Criteria.Text.Similarity
import Mathlib.Algebra.Order.Field.Rat
import Mathlib.Algebra.Order.Group.Multiset
import Mathlib.Data.Multiset.UnionInter
import Mathlib.Tactic.NormNum

/-! # Bounds of the similarity

The two cheap bounds of a ratio are bounds: no pair of sequences is ruled out by them whose ratio is
three fifths or more.

* `Ratio.value` — a ratio as a number;
* `drop_take_longestBlock` — a longest block stands in both sequences;
* `matched_le_shared` — no more elements match than are shared in any order;
* `mayBeClose_of_isClose` — close sequences pass both bounds.

The elements that are shared are those of the intersection of two multisets.  The block in the
middle of two sequences is in this intersection, and so is what two parts on the same side of it
have in common.
-/

namespace Criteria.Text

/-! ## Ratios as numbers -/

namespace Ratio

/-- A ratio as a number: one when there is nothing. -/
def value (r : Ratio) : ℚ :=
  if r.total = 0 then 1 else 2 * r.matched / r.total

theorem fraction_snd_pos (r : Ratio) : 0 < r.fraction.2 := by
  unfold fraction
  split
  · exact Nat.one_pos
  next notEmpty => exact Nat.pos_of_ne_zero notEmpty

theorem value_eq (r : Ratio) : r.value = (r.fraction.1 : ℚ) / r.fraction.2 := by
  unfold value fraction
  split <;> simp

theorem le_eq_true {r s : Ratio} : r.le s = true ↔ r.value ≤ s.value := by
  have left : (0 : ℚ) < r.fraction.2 := Nat.cast_pos.2 r.fraction_snd_pos
  have right : (0 : ℚ) < s.fraction.2 := Nat.cast_pos.2 s.fraction_snd_pos
  rw [le, decide_eq_true_eq, value_eq, value_eq, div_le_div_iff₀ left right]
  norm_cast

theorem isClose_eq_true {r : Ratio} : r.isClose = true ↔ 3 / 5 ≤ r.value := by
  have positive : (0 : ℚ) < r.fraction.2 := Nat.cast_pos.2 r.fraction_snd_pos
  have five : (0 : ℚ) < 5 := by norm_num
  rw [isClose, decide_eq_true_eq, value_eq, div_le_div_iff₀ five positive, mul_comm _ (5 : ℚ)]
  norm_cast

theorem isClose_of_le {m m' total : Nat} (more : m ≤ m')
    (close : (Ratio.mk m total).isClose = true) : (Ratio.mk m' total).isClose = true := by
  simp only [isClose, fraction, decide_eq_true_eq] at close ⊢
  split at close
  next empty => exact (if_pos empty).symm ▸ close
  next notEmpty =>
    rw [if_neg notEmpty]
    omega

end Ratio

variable {α : Type}

/-! ## Parts of a sequence -/

/-- What stands around a split: `k` elements before it, and `m` after it. -/
theorem drop_take_split {before : List α} {k : Nat} (bound : k ≤ before.length) (after : List α)
    (m : Nat) :
    ((before ++ after).drop (before.length - k)).take (k + m)
      = (before.reverse.take k).reverse ++ after.take m := by
  have size : (before.drop (before.length - k)).length = k := by
    rw [List.length_drop]
    omega
  rw [List.drop_append_of_le_length (Nat.sub_le _ _), List.take_append, size,
    Nat.add_sub_cancel_left, List.take_of_length_le (by omega), List.take_reverse,
    List.reverse_reverse]

theorem take_append_block (xs : List α) (left size : Nat) :
    xs.take left ++ (xs.drop left).take size ++ xs.drop (left + size) = xs := by
  rw [List.append_assoc, ← List.drop_drop, List.take_append_drop, List.take_append_drop]

variable [DecidableEq α]

/-! ## Blocks stand in both sequences -/

theorem agreement_le_length_right (xs ys : List α) : agreement xs ys ≤ ys.length := by
  have same := congrArg List.length (take_agreement xs ys)
  have bound := agreement_le_length xs ys
  simp only [List.length_take] at same
  omega

/-- The elements around a split that agree are the same in both sequences. -/
theorem drop_take_blockAround (xsBefore xsAfter ysBefore ysAfter : List α) :
    let b := blockAround xsBefore xsAfter ysBefore ysAfter
    ((xsBefore ++ xsAfter).drop b.left).take b.size
      = ((ysBefore ++ ysAfter).drop b.right).take b.size := by
  have left := agreement_le_length xsBefore.reverse ysBefore.reverse
  have right := agreement_le_length_right xsBefore.reverse ysBefore.reverse
  rw [List.length_reverse] at left right
  dsimp only [blockAround]
  rw [drop_take_split left, drop_take_split right, take_agreement, take_agreement]

theorem drop_take_longestBlock (xs : List (α × List Nat)) (start : Nat) (ys : List α) :
    let b := longestBlock xs start ys
    ((xs.map (·.1)).drop b.left).take b.size = (ys.drop b.right).take b.size := by
  have same (i j : Nat) := drop_take_blockAround ((xs.map (·.1)).take i) ((xs.map (·.1)).drop i)
    (ys.take j) (ys.drop j)
  simp only [List.take_append_drop] at same
  exact same _ _

/-! ## Shared elements -/

theorem shared_eq_card (xs ys : List α) :
    shared xs ys = ((xs : Multiset α) ∩ ys).card := by
  rw [Multiset.coe_inter, Multiset.coe_card]
  induction xs generalizing ys with
  | nil => rw [shared, List.nil_bagInter, List.length_nil]
  | cons x xs inductionHypothesis =>
    rw [shared]
    split
    next isThere =>
      rw [List.cons_bagInter_of_mem _ isThere, List.length_cons, inductionHypothesis]
    next absent => rw [List.cons_bagInter_of_not_mem _ absent, inductionHypothesis]

theorem shared_le_min (xs ys : List α) : shared xs ys ≤ min xs.length ys.length := by
  rw [shared_eq_card]
  exact le_min (Multiset.card_le_card Multiset.inter_le_left)
    (Multiset.card_le_card Multiset.inter_le_right)

/-- Two sequences with a common part in the middle share that part, and what is shared before it and
after it. -/
theorem shared_add_le (xsBefore common xsAfter ysBefore ysAfter : List α) :
    shared xsBefore ysBefore + common.length + shared xsAfter ysAfter
      ≤ shared (xsBefore ++ common ++ xsAfter) (ysBefore ++ common ++ ysAfter) := by
  have inside : (xsBefore : Multiset α) ∩ ysBefore + common + (xsAfter : Multiset α) ∩ ysAfter
      ≤ (xsBefore + common + xsAfter : Multiset α) ∩ (ysBefore + common + ysAfter) :=
    Multiset.le_inter
      (add_le_add (add_le_add_left Multiset.inter_le_left _) Multiset.inter_le_left)
      (add_le_add (add_le_add_left Multiset.inter_le_right _) Multiset.inter_le_right)
  have counted := Multiset.card_le_card inside
  simpa only [shared_eq_card, Multiset.card_add, Multiset.coe_card, Multiset.coe_add] using counted

/-- Two sequences share a block that stands in both, and what is shared before it and after it. -/
theorem shared_around_le {xs ys : List α} {b : Block}
    (same : (xs.drop b.left).take b.size = (ys.drop b.right).take b.size)
    (inside : b.left + b.size ≤ xs.length) :
    shared (xs.take b.left) (ys.take b.right) + b.size
      + shared (xs.drop (b.left + b.size)) (ys.drop (b.right + b.size)) ≤ shared xs ys := by
  have size : ((xs.drop b.left).take b.size).length = b.size := by
    rw [List.length_take, List.length_drop]
    omega
  have parts := shared_add_le (xs.take b.left) ((xs.drop b.left).take b.size)
    (xs.drop (b.left + b.size)) (ys.take b.right) (ys.drop (b.right + b.size))
  rwa [take_append_block, same, take_append_block, ← same, size] at parts

/-! ## Matched elements are shared -/

theorem matched_le_shared (xs : List (α × List Nat)) (start : Nat) (ys : List α) :
    matched xs start ys ≤ shared (xs.map (·.1)) ys := by
  fun_induction matched xs start ys with
  | case1 xs start ys b empty => exact Nat.zero_le _
  | case2 xs start ys b notEmpty before after =>
    have inside : b.left + b.size ≤ (xs.map (·.1)).length := by
      rw [List.length_map]
      exact left_add_size_longestBlock_le xs start ys
    -- the searches before and after the block are on parts of both sequences
    rw [List.map_take] at before
    rw [List.map_drop] at after
    calc
      matched (xs.take b.left) start (ys.take b.right) + b.size
          + matched (xs.drop (b.left + b.size)) (start + b.right + b.size)
            (ys.drop (b.right + b.size))
        ≤ shared ((xs.map (·.1)).take b.left) (ys.take b.right) + b.size
          + shared ((xs.map (·.1)).drop (b.left + b.size)) (ys.drop (b.right + b.size)) :=
          Nat.add_le_add (Nat.add_le_add_right before _) after
      _ ≤ shared (xs.map (·.1)) ys :=
          shared_around_le (drop_take_longestBlock xs start ys) inside

/-! ## Bounds of a ratio -/

theorem map_placed (xs ys : List α) : (placed xs ys).map (·.1) = xs := by
  rw [placed, List.map_map]
  exact List.map_id xs

/-- Sequences whose ratio is three fifths or more pass both bounds. -/
theorem mayBeClose_of_isClose {xs ys : List α} (close : (ratio xs ys).isClose = true) :
    mayBeClose xs ys = true := by
  have matching := matched_le_shared (placed xs ys) 0 ys
  rw [map_placed] at matching
  have all : (sharedRatio xs ys).isClose = true := Ratio.isClose_of_le matching close
  have shorter : (lengthRatio xs ys).isClose = true :=
    Ratio.isClose_of_le (shared_le_min xs ys) all
  rw [mayBeClose, shorter, all]
  rfl

end Criteria.Text
