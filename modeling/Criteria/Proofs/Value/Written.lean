import Criteria.Value.Written

/-! # The spelling of null

Null is spelled as a capitalised word, and apart from the truth values nothing else but a text
begins with a capital.

* `Decimal.head?_magnitudeText` — a magnitude begins with a digit;
* `Value.eq_null_or_str_of_head?` — a value that begins as null does is null or a text;
* `Value.text_eq_text_null` — only null, and the text that spells it, read as null.
-/

namespace Criteria

/-! ## Numbers -/

/-- Numerals begin with a digit. -/
theorem exists_toDigits_eq_cons (n : Nat) :
    ∃ d rest, Nat.toDigits 10 n = d :: rest ∧ d.isDigit = true := by
  obtain ⟨d, rest, split⟩ := List.exists_cons_of_ne_nil (Nat.toDigits_ne_nil (b := 10) (n := n))
  have first : d ∈ Nat.toDigits 10 n := by simp [split]
  exact ⟨d, rest, split, Nat.isDigit_of_mem_toDigits (by decide) (by decide) first⟩

namespace Decimal

theorem head?_magnitudeText (l : Layout) (coefficient : Nat) (exponent : Int) :
    ∃ d, (magnitudeText l coefficient exponent).head? = some d ∧ d.isDigit = true := by
  obtain ⟨d, rest, split, isDigit⟩ := exists_toDigits_eq_cons coefficient
  unfold magnitudeText
  rw [split]
  dsimp only
  split
  · split
    · exact ⟨d, rfl, isDigit⟩
    · split
      next atLeastZero =>
        -- the first digit stands before the point
        obtain ⟨n, isSucc⟩ : ∃ n, (exponent + (((d :: rest).length - 1 : Nat) : Int) + 1).toNat
            = n + 1 := ⟨_, (Int.toNat_add atLeastZero (by decide))⟩
        exact ⟨d, by rw [isSucc]; rfl, isDigit⟩
      next => exact ⟨'0', rfl, by decide⟩
  · exact ⟨d, rfl, isDigit⟩

theorem head?_text (x : Decimal) : x.text.toList.head? ≠ some 'N' := by
  cases x with
  | nan => decide
  | infinite negative => cases negative <;> decide
  | finite negative coefficient exponent =>
    rw [text, textIn, String.toList_ofList]
    cases negative with
    | true => simp [signText]
    | false =>
      obtain ⟨d, first, isDigit⟩ := head?_magnitudeText layout coefficient exponent
      rw [signText, if_neg (by decide), List.nil_append, first]
      rintro ⟨⟩
      cases isDigit

end Decimal

theorem head?_toString_int (n : Int) : (toString n).toList.head? ≠ some 'N' := by
  cases n with
  | ofNat n =>
    obtain ⟨d, rest, split, isDigit⟩ := exists_toDigits_eq_cons n
    have digits : (toString (Int.ofNat n)).toList = Nat.toDigits 10 n := Nat.toList_repr
    rw [digits, split, List.head?_cons]
    rintro ⟨⟩
    cases isDigit
  | negSucc n =>
    have negative : (toString (Int.negSucc n)).toList = '-' :: (Nat.repr (n + 1)).toList := by
      change ("-" ++ Nat.repr (n + 1)).toList = _
      rw [String.toList_append]
      rfl
    rw [negative, List.head?_cons]
    decide

namespace Value

/-! ## Values -/

/-- Of all values only null and texts begin as null does. -/
theorem eq_null_or_str_of_head? {v : Value} (begins : v.text.toList.head? = some 'N') :
    v = .null ∨ ∃ s, v = .str s := by
  cases v with
  | null => exact .inl rfl
  | str s => exact .inr ⟨s, rfl⟩
  | bool b => cases b <;> exact absurd begins (by decide)
  | int n => exact absurd begins (head?_toString_int n)
  | float x => exact absurd begins x.head?_text
  | tuple items =>
    change (tupleText (quotedItems items)).toList.head? = _ at begins
    unfold tupleText at begins
    split at begins <;> simp [enclosed] at begins
  | transform t => cases t <;> simp [text, quoted] at begins
  | list _ | map _ | catalog _ | engine _ => simp [text, quoted, enclosed] at begins
  | options o =>
    rw [text, memberTexts, String.intercalate_cons_cons] at begins
    simp at begins

/-- A value reads as null if it is null or the text that spells null, and otherwise it does not. -/
theorem text_eq_text_null {v : Value} :
    v.text = Value.null.text ↔ v = .null ∨ v = .str wording.null := by
  constructor
  · intro same
    rcases eq_null_or_str_of_head? (v := v) (by rw [same]; rfl) with rfl | ⟨s, rfl⟩
    · exact .inl rfl
    · exact .inr (congrArg Value.str same)
  · rintro (rfl | rfl) <;> rfl

end Value

end Criteria
