import Criteria.Text.Similarity

/-! # Close matches of a word

Which of some known words come close to a given one.

* `sortWords` — words in the order of their code points;
* `Spelling` — what a word is made of: letters, and things that are no letters;
* `Match` — a known word with its ratio to the word that is sought;
* `closeMatches` — the best few words whose ratio is three fifths or more, the most similar first.

Two cheap upper bounds are tried before the ratio itself.  Of two words with equal ratios the one
later in code point order comes first.
-/

namespace Criteria.Text

/-- Words in the order of their code points. -/
def sortWords (words : List String) : List String :=
  words.mergeSort fun a b => decide (a ≤ b)

@[simp] theorem sortWords_eq_nil {words : List String} : sortWords words = [] ↔ words = [] := by
  rw [sortWords, ← List.length_eq_zero_iff, List.length_mergeSort, List.length_eq_zero_iff]

theorem sortWords_perm (words : List String) : (sortWords words).Perm words :=
  List.mergeSort_perm words _

theorem pairwise_sortWords (words : List String) : (sortWords words).Pairwise (· ≤ ·) := by
  refine (List.pairwise_mergeSort (fun a b c first second => ?_) (fun a b => ?_) words).imp
    of_decide_eq_true
  · exact decide_eq_true (String.le_trans (of_decide_eq_true first) (of_decide_eq_true second))
  · rw [Bool.or_eq_true, decide_eq_true_eq, decide_eq_true_eq]
    exact String.le_total a b

theorem sortWords_of_pairwise {words : List String} (sorted : words.Pairwise (· ≤ ·)) :
    sortWords words = words :=
  List.mergeSort_of_pairwise (sorted.imp decide_eq_true)

/-- Words in order are the same however they were ordered before. -/
theorem sortWords_congr {words words' : List String} (same : words.Perm words') :
    sortWords words = sortWords words' :=
  List.Perm.eq_of_pairwise (fun _ _ _ _ => String.le_antisymm) (pairwise_sortWords words)
    (pairwise_sortWords words')
    ((sortWords_perm words).trans (same.trans (sortWords_perm words').symm))

/-- The parts of a word in order: its letters, and `none` for a part that is no letter and so is in
no known word. -/
abbrev Spelling := List (Option Char)

/-- The letters of a known word. -/
def spelling (s : String) : Spelling :=
  s.toList.map some

/-- A known word, with its ratio to the word that is sought. -/
structure Match where
  ratio : Ratio
  known : String
deriving DecidableEq, Repr

/-- The match of a known word, unless the upper bounds rule it out or its ratio is too low. -/
def match? (word : Spelling) (known : String) : Option Match :=
  if mayBeClose (spelling known) word then
    let m : Match := ⟨ratio (spelling known) word, known⟩
    if m.ratio.isClose then some m else none
  else
    none

/-- Whether a match comes before another one: by a higher ratio, and at equal ratios by a later
place in code point order. -/
def Match.ranksBefore (a b : Match) : Bool :=
  b.ratio.le a.ratio && (!a.ratio.le b.ratio || decide (b.known ≤ a.known))

/-- The best `n` known words that are close to `word`. -/
def closeMatches (n : Nat) (word : Spelling) (known : List String) : List String :=
  (((known.filterMap (match? word)).mergeSort Match.ranksBefore).take n).map (·.known)

end Criteria.Text
