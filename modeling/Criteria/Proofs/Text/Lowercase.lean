import Criteria.Text.Lowercase

/-! # Lower case once and for all

A text in lower case stays as it is when it is lower-cased again.

* `CaseRun.misses` — a test on the ends of two runs that tells them apart;
* `IsLower` — characters that lower-casing leaves alone wherever they stand;
* `lowercase_lowercase` — the lower-case form of a text is its own lower-case form.

What a sigma becomes depends on its surroundings, but a text in lower case has no capital sigma.
-/

namespace Criteria.Text

/-! ## Runs of capitals -/

namespace CaseRun

/-- Whether the ends of a run, or the parity of its capitals, rule out that one of the code points
`first, first + step, …, last` is a capital of the run. -/
def misses (r : CaseRun) (first last step : Nat) : Bool :=
  Nat.blt last r.first || Nat.blt r.last first
    || ((step % 2 == 0 || first == last) && r.step % 2 == 0 && (first + r.first) % 2 == 1)

/-- Whether the lower-case forms of a run are code points of characters. -/
def isProper (r : CaseRun) : Bool :=
  decide (0 ≤ (r.first : Int) + r.shift)
    && (Nat.blt (r.lower r.last) 0xd800
      || Nat.blt 0xdfff (r.lower r.first) && Nat.blt (r.lower r.last) 0x110000)

theorem contains_eq_true {r : CaseRun} {n : Nat} :
    r.contains n = true ↔ r.first ≤ n ∧ n ≤ r.last ∧ (n - r.first) % r.step = 0 := by
  simp [contains, and_assoc]

theorem mod_two_of_contains {r : CaseRun} {n : Nat} (inside : r.contains n = true)
    (even : r.step % 2 = 0) : n % 2 = r.first % 2 := by
  obtain ⟨above, _, spaced⟩ := contains_eq_true.1 inside
  have twice : 2 ∣ n - r.first :=
    Nat.dvd_trans (Nat.dvd_of_mod_eq_zero even) (Nat.dvd_of_mod_eq_zero spaced)
  omega

theorem lower_eq {r : CaseRun} (proper : r.isProper = true) {n : Nat} (above : r.first ≤ n) :
    (r.lower n : Int) = n + r.shift := by
  simp only [isProper, Bool.and_eq_true, decide_eq_true_eq] at proper
  simp only [lower]
  omega

theorem isValidChar_lower {r : CaseRun} (proper : r.isProper = true) {n : Nat}
    (inside : r.contains n = true) : (r.lower n).isValidChar := by
  obtain ⟨above, below, _⟩ := contains_eq_true.1 inside
  have atFirst := lower_eq proper (Nat.le_refl _)
  have atLast := lower_eq proper (Nat.le_trans above below)
  have here := lower_eq proper above
  simp only [isProper, Bool.and_eq_true, Bool.or_eq_true, Nat.blt_eq] at proper
  unfold Nat.isValidChar
  omega

/-- What the test says of two runs holds of the lower-case forms of the one and the capitals of the
other. -/
theorem not_contains_lower {r r' : CaseRun} (proper : r.isProper = true) {n : Nat}
    (inside : r.contains n = true)
    (apart : r'.misses (r.lower r.first) (r.lower r.last) r.step = true) :
    r'.contains (r.lower n) = false := by
  obtain ⟨above, below, _⟩ := contains_eq_true.1 inside
  have atFirst := lower_eq proper (Nat.le_refl _)
  have atLast := lower_eq proper (Nat.le_trans above below)
  have here := lower_eq proper above
  rw [Bool.eq_false_iff]
  intro capital
  obtain ⟨above', below', _⟩ := contains_eq_true.1 capital
  simp only [misses, Bool.or_eq_true, Bool.and_eq_true, Nat.blt_eq, beq_iff_eq] at apart
  rcases apart with (beneath | beyond) | ⟨⟨alike, even'⟩, differ⟩
  · omega
  · omega
  · -- the parities of the two runs differ
    have parity' := mod_two_of_contains capital even'
    have parity : n % 2 = r.first % 2 := by
      rcases alike with even | same
      · exact mod_two_of_contains inside even
      · omega
    omega

end CaseRun

/-- The runs of all characters that lower-casing changes. -/
def capitalRuns : List CaseRun :=
  ⟨0x130, 0x130, 1, 0⟩ :: lowerRuns

theorem isProper_of_mem : ∀ r ∈ lowerRuns, r.isProper = true := by
  decide +kernel

theorem capitalRuns_miss :
    (lowerRuns.all fun r => capitalRuns.all fun r' =>
      r'.misses (r.lower r.first) (r.lower r.last) r.step) = true := by
  decide +kernel

/-! ## Characters in lower case -/

/-- A character that is no capital. -/
def IsLower (c : Char) : Prop :=
  ∀ r ∈ capitalRuns, r.contains c.toNat = false

instance (c : Char) : Decidable (IsLower c) :=
  inferInstanceAs (Decidable (∀ r ∈ capitalRuns, _))

theorem IsLower.lowerChar {c : Char} (low : IsLower c) : lowerChar c = [c] := by
  have undotted : c ≠ 'İ' := by
    rintro rfl
    exact absurd (low _ List.mem_cons_self) (by decide)
  have simple : simpleLower c = c := by
    have none : lowerRuns.find? (·.contains c.toNat) = none :=
      List.find?_eq_none.2 fun r member => by simp [low r (List.mem_cons_of_mem _ member)]
    rw [simpleLower, none]
  rw [Text.lowerChar, if_neg undotted, simple]

theorem IsLower.ne_capitalSigma {c : Char} (low : IsLower c) : c ≠ capitalSigma := by
  rintro rfl
  exact absurd low (by decide +kernel)

theorem isLower_simpleLower {c : Char} (undotted : c ≠ 'İ') : IsLower (simpleLower c) := by
  rw [simpleLower]
  split
  next r found =>
    have inside : r.contains c.toNat = true := by simpa using List.find?_some found
    have member := List.mem_of_find?_eq_some found
    have proper := isProper_of_mem r member
    have form : (Char.ofNat (r.lower c.toNat)).toNat = r.lower c.toNat := by
      rw [Char.ofNat, dif_pos (CaseRun.isValidChar_lower proper inside)]
      rfl
    intro r' member'
    have apart := List.all_eq_true.1 (List.all_eq_true.1 capitalRuns_miss r member) r' member'
    rw [form]
    exact CaseRun.not_contains_lower proper inside apart
  next none =>
    intro r member
    rcases List.mem_cons.1 member with rfl | member
    · have other : c.toNat ≠ 0x130 := fun same => undotted (Char.toNat_inj.1 same)
      rw [Bool.eq_false_iff]
      intro inside
      obtain ⟨above, below, _⟩ := CaseRun.contains_eq_true.1 inside
      exact other (Nat.le_antisymm below above)
    · simpa using List.find?_eq_none.1 none r member

theorem isLower_of_mem_lowerChar {c d : Char} (member : d ∈ lowerChar c) : IsLower d := by
  unfold lowerChar at member
  split at member
  next =>
    simp only [List.mem_cons, List.not_mem_nil, or_false] at member
    rcases member with rfl | rfl
    · decide +kernel
    · decide +kernel
  next undotted =>
    rw [List.mem_singleton.1 member]
    exact isLower_simpleLower undotted

/-! ## Texts in lower case -/

theorem isLower_of_mem_lowerAfter {before cs : List Char} {d : Char}
    (member : d ∈ lowerAfter before cs) : IsLower d := by
  induction cs generalizing before with
  | nil => cases member
  | cons c rest inductionHypothesis =>
    rw [lowerAfter] at member
    rcases List.mem_append.1 member with first | later
    · split at first
      · rw [List.mem_singleton.1 first]
        decide +kernel
      · exact isLower_of_mem_lowerChar first
    · exact inductionHypothesis later

theorem lowerAfter_of_isLower (before : List Char) {cs : List Char} (low : ∀ c ∈ cs, IsLower c) :
    lowerAfter before cs = cs := by
  induction cs generalizing before with
  | nil => rfl
  | cons c rest inductionHypothesis =>
    obtain ⟨first, later⟩ := List.forall_mem_cons.1 low
    rw [lowerAfter, if_neg fun final => first.ne_capitalSigma final.1, first.lowerChar,
      inductionHypothesis _ later]
    rfl

theorem lower_lower (cs : List Char) : lower (lower cs) = lower cs :=
  lowerAfter_of_isLower [] fun _ member => isLower_of_mem_lowerAfter member

@[simp] theorem lowercase_lowercase (s : String) : lowercase (lowercase s) = lowercase s := by
  rw [lowercase, lowercase, String.toList_ofList, lower_lower]

example : lowercase "ΌΣΟΣ İΣ" = "όσος i̇ς" ∧ lowercase "όσος i̇ς" = "όσος i̇ς" := by
  decide +kernel

end Criteria.Text
