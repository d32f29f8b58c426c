import Criteria.Text.CloseMatches
import Criteria.Proofs.Text.Similarity
import Mathlib.Data.List.Sort
import Mathlib.Data.Prod.Lex
import Mathlib.Data.String.Basic

/-! # The closest words

Close matches are the first words of a ranking: of all known words that are similar enough, in
decreasing order of their similarity, and of the words themselves where they are equally similar.

* `similarity` — the ratio of a known word to the one that is sought, as a number;
* `rank` — what known words are ordered by;
* `Ranking` — all known words that are close to a word, the best first;
* `Best` — the first few words of the ranking;
* `best_closeMatches` — close matches are the best few words.

The cheap bounds do not occur in a ranking: `match?_eq` says that they rule nothing out.
-/

namespace Criteria.Text

variable {word : Spelling}

/-! ## Ranks -/

/-- How similar a known word is to the one that is sought. -/
def similarity (word : Spelling) (known : String) : ℚ :=
  (ratio (spelling known) word).value

/-- What known words are ordered by: their similarity, and then the words themselves. -/
def rank (word : Spelling) (known : String) : ℚ ×ₗ String :=
  toLex (similarity word known, known)

theorem rank_injective (word : Spelling) : Function.Injective (rank word) := by
  intro a b same
  exact congrArg (fun r => (ofLex r).2) same

/-! ## Matches -/

/-- The match of a known word, however similar it is. -/
def matchOf (word : Spelling) (known : String) : Match :=
  ⟨ratio (spelling known) word, known⟩

/-- A known word is matched if it is similar enough: the cheap bounds rule no such word out. -/
theorem match?_eq (word : Spelling) (known : String) :
    match? word known
      = if 3 / 5 ≤ similarity word known then some (matchOf word known) else none := by
  rw [match?, similarity]
  by_cases close : (ratio (spelling known) word).isClose = true
  · rw [if_pos (mayBeClose_of_isClose close), if_pos (Ratio.isClose_eq_true.1 close)]
    exact if_pos close
  · -- behind the bounds the ratio itself decides
    rw [if_neg (mt Ratio.isClose_eq_true.2 close)]
    split
    · exact if_neg close
    · rfl

theorem filterMap_match? (word : Spelling) (known : List String) :
    known.filterMap (match? word)
      = (known.filter fun w => decide (3 / 5 ≤ similarity word w)).map (matchOf word) := by
  rw [← List.filterMap_eq_map, List.filterMap_filter]
  congr 1
  funext w
  simp only [match?_eq, decide_eq_true_eq, Function.comp_apply]

theorem ranksBefore_matchOf (a b : String) :
    (matchOf word a).ranksBefore (matchOf word b) = true ↔ rank word b ≤ rank word a := by
  change (_ && (!_ || _)) = true ↔ toLex (similarity word b, b) ≤ toLex (similarity word a, a)
  simp only [Prod.Lex.toLex_le_toLex', Bool.and_eq_true, Bool.or_eq_true, Bool.not_eq_true',
    ← Bool.not_eq_true, Ratio.le_eq_true, decide_eq_true_eq]
  change similarity word b ≤ similarity word a
    ∧ (¬similarity word a ≤ similarity word b ∨ b ≤ a) ↔ _
  refine and_congr_right fun below => ?_
  rw [or_iff_not_imp_left, not_not, below.ge_iff_eq]

/-! ## Rankings -/

/-- All known words that are close to a word, the best first. -/
structure Ranking (word : Spelling) (known ranked : List String) : Prop where
  mem_iff : ∀ w, w ∈ ranked ↔ w ∈ known ∧ 3 / 5 ≤ similarity word w
  descending : ranked.Pairwise fun a b => rank word b < rank word a

theorem Ranking.unique {known left right : List String} (ranking : Ranking word known left)
    (other : Ranking word known right) : left = right := by
  have : Std.Irrefl fun a b => rank word b < rank word a := ⟨fun a => lt_irrefl (rank word a)⟩
  have : Std.Antisymm fun a b => rank word b < rank word a :=
    ⟨fun a b below above => absurd below above.not_gt⟩
  exact ranking.descending.eq_of_mem_iff other.descending fun w =>
    (ranking.mem_iff w).trans (other.mem_iff w).symm

/-- Rankings can be tested: by the known words alone, and without dividing. -/
theorem ranking_iff {known ranking : List String} :
    Ranking word known ranking ↔
      (∀ w ∈ ranking, w ∈ known) ∧
      (∀ w ∈ known, w ∈ ranking ↔ (ratio (spelling w) word).isClose = true) ∧
      ranking.Pairwise fun a b => (matchOf word b).ranksBefore (matchOf word a) = false := by
  have close (w : String) :
      (ratio (spelling w) word).isClose = true ↔ 3 / 5 ≤ similarity word w := Ratio.isClose_eq_true
  have below (a b : String) :
      (matchOf word b).ranksBefore (matchOf word a) = false ↔ rank word b < rank word a := by
    rw [← Bool.not_eq_true, ranksBefore_matchOf, not_le]
  simp only [close, below]
  constructor
  · rintro ⟨mem_iff, descending⟩
    refine ⟨fun w member => ((mem_iff w).1 member).1, fun w isKnown => ?_, descending⟩
    rw [mem_iff, and_iff_right isKnown]
  · rintro ⟨inside, similar, descending⟩
    refine ⟨fun w => ⟨fun member => ?_, fun both => (similar w both.1).2 both.2⟩, descending⟩
    exact ⟨inside w member, (similar w (inside w member)).1 member⟩

instance (word : Spelling) (known ranking : List String) :
    Decidable (Ranking word known ranking) :=
  decidable_of_iff _ ranking_iff.symm

/-- The close words among some known ones, the best first. -/
def ranked (word : Spelling) (known : List String) : List String :=
  (known.filter fun w => decide (3 / 5 ≤ similarity word w)).mergeSort
    fun a b => decide (rank word b ≤ rank word a)

theorem ranking_ranked (word : Spelling) {known : List String} (distinct : known.Nodup) :
    Ranking word known (ranked word known) := by
  have sameWords : (ranked word known).Perm
      (known.filter fun w => decide (3 / 5 ≤ similarity word w)) := List.mergeSort_perm _ _
  constructor
  · intro w
    rw [sameWords.mem_iff, List.mem_filter, decide_eq_true_eq]
  · have sorted : (ranked word known).Pairwise fun a b => rank word b ≤ rank word a := by
      refine (List.pairwise_mergeSort (fun a b c first second => ?_) (fun a b => ?_) _).imp
        of_decide_eq_true
      · exact decide_eq_true ((of_decide_eq_true second).trans (of_decide_eq_true first))
      · simpa using le_total (rank word b) (rank word a)
    have once : (ranked word known).Nodup := sameWords.nodup_iff.2 (distinct.filter _)
    exact (sorted.and once).imp fun both =>
      both.1.lt_of_ne fun same => both.2 (rank_injective word same).symm

/-- Close matches are the first words of the ranking. -/
theorem closeMatches_eq_take (n : Nat) (word : Spelling) (known : List String) :
    closeMatches n word known = (ranked word known).take n := by
  have sorted : ((known.filterMap (match? word)).mergeSort Match.ranksBefore)
      = (ranked word known).map (matchOf word) := by
    rw [filterMap_match?, ranked]
    refine (List.map_mergeSort fun a _ b _ => ?_).symm
    rw [Bool.eq_iff_iff, decide_eq_true_eq, ranksBefore_matchOf]
  rw [closeMatches, sorted, ← List.map_take, List.map_map]
  exact List.map_id _

/-- The first `n` words of the ranking of some known words, which there is. -/
structure Best (n : Nat) (word : Spelling) (known found : List String) : Prop where
  ranked : ∃ ranking, Ranking word known ranking
  first : ∀ ranking, Ranking word known ranking → found = ranking.take n

theorem best_closeMatches (n : Nat) (word : Spelling) {known : List String}
    (distinct : known.Nodup) : Best n word known (closeMatches n word known) where
  ranked := ⟨_, ranking_ranked word distinct⟩
  first ranking isRanking := by
    rw [closeMatches_eq_take, isRanking.unique (ranking_ranked word distinct)]

theorem Best.subset {n : Nat} {known found : List String} (best : Best n word known found) :
    found ⊆ known := by
  obtain ⟨ranking, isRanking⟩ := best.ranked
  intro w member
  rw [best.first ranking isRanking] at member
  exact ((isRanking.mem_iff w).1 (List.mem_of_mem_take member)).1

end Criteria.Text
