import Criteria.Proofs.Config.Attributes

/-! # Entries made of settings

A configuration that is made of settings gives each of them once, under the spelling that is chosen
for it.

* `Entries.get?_map_spelled` — what is found in such entries under any spelling;
* `Config.wellKeyed_map_spelled` — their keys are known and in one spelling each;
* `Config.given?_map_spelled` — what they give for a setting.

Values may stand in front of the settings, and no setting is any different for them.
-/

namespace Criteria

open Entries

/-! ## Keys -/

namespace Entries

/-- In the entries made of some settings, with a spelling for each, a setting is found under the
spelling that was chosen for it. -/
theorem get?_map_spelled {spell : Setting → String} (spelled : ∀ s : Setting, spell s ∈ s.spellings)
    (settings : List Setting) (f : Setting → Value) {s : Setting} {k : String}
    (spells : k ∈ s.spellings) :
    get? (settings.map fun s : Setting => (.str (spell s), f s)) (.str k)
      = if s ∈ settings ∧ spell s = k then some (f s) else none := by
  induction settings with
  | nil => simp
  | cons first rest inductionHypothesis =>
    rw [List.map_cons, get?_cons, inductionHypothesis]
    by_cases same : first = s
    · by_cases chosen : spell s = k <;> simp [same, chosen]
    · have differ : spell first ≠ k := by
        rintro rfl
        exact same (Setting.eq_of_mem_spellings (spelled first) spells)
      simp [differ, Ne.symm same]

/-- In the entries made of some settings each of them is found by its key, and no other is. -/
theorem get?_map_key (settings : List Setting) (f : Setting → Value) (s : Setting) :
    get? (settings.map fun s : Setting => (.str s.key, f s)) (.str s.key)
      = if s ∈ settings then some (f s) else none := by
  simp [get?_map_spelled Setting.key_mem_spellings settings f s.key_mem_spellings]

end Entries

/-! ## Attributes -/

namespace Config

section

variable {spell : Setting → String} (spelled : ∀ s : Setting, spell s ∈ s.spellings)
  (settings : List Setting) (f : Setting → Value)

include spelled

theorem hasKey_map_spelled {s : Setting} {k : String} (spells : k ∈ s.spellings) :
    hasKey (settings.map fun s : Setting => (.str (spell s), f s)) (.str k) = true
      ↔ s ∈ settings ∧ spell s = k := by
  rw [← isSome_get?, get?_map_spelled spelled settings f spells]
  split
  next both => simp [both]
  next neither => simp [neither]

theorem spelledAlike_map_spelled {spell' : Setting → String}
    (spelled' : ∀ s : Setting, spell' s ∈ s.spellings) (settings' : List Setting)
    (f' : Setting → Value) (alike : ∀ s ∈ settings, s ∈ settings' → spell s = spell' s) :
    SpelledAlike (settings.map fun s : Setting => (.str (spell s), f s))
      (settings'.map fun s : Setting => (.str (spell' s), f' s)) := by
  intro s k spells k' spells' present present'
  obtain ⟨member, rfl⟩ := (hasKey_map_spelled spelled settings f spells).1 present
  obtain ⟨member', rfl⟩ := (hasKey_map_spelled spelled' settings' f' spells').1 present'
  exact alike s member member'

theorem wellKeyed_map_spelled :
    WellKeyed (settings.map fun s : Setting => (.str (spell s), f s)) where
  known key member := by
    obtain ⟨e, inside, rfl⟩ := List.mem_map.1 member
    obtain ⟨s, _, rfl⟩ := List.mem_map.1 inside
    exact .inr ⟨s, spell s, spelled s, rfl⟩
  once := spelledAlike_map_spelled spelled settings f spelled settings f fun _ _ _ => rfl

theorem get?_values_map_spelled :
    get? (settings.map fun s : Setting => (.str (spell s), f s)) valuesKey = none := by
  rw [get?_eq_none, Bool.eq_false_iff]
  intro present
  obtain ⟨e, inside, isValues⟩ := List.mem_map.1 (hasKey_str_iff.1 present)
  obtain ⟨s, _, rfl⟩ := List.mem_map.1 inside
  exact s.valuesKey_not_mem_spellings (Value.str.inj isValues ▸ spelled s)

theorem given?_map_spelled (s : Setting) :
    s.given? (settings.map fun s : Setting => (.str (spell s), f s))
      = if s ∈ settings then some (f s) else none := by
  ext v
  rw [given?_eq_some (wellKeyed_map_spelled spelled settings f).once]
  constructor
  · rintro ⟨k, spells, found⟩
    rw [get?_map_spelled spelled settings f spells] at found
    split at found
    next both => rwa [if_pos both.1]
    next => cases found
  · intro given
    refine ⟨spell s, spelled s, ?_⟩
    rw [get?_map_spelled spelled settings f (spelled s)]
    simpa using given

end

/-! ## Values in front -/

section

variable (values? : Option Value) {es : Entries}

theorem get?_values_append {k : String} (other : k ≠ valuesKey) :
    get? ((values?.map fun v => (.str valuesKey, v)).toList ++ es) (.str k) = get? es (.str k) := by
  cases values? with
  | none => rfl
  | some v => simp [get?_cons, other.symm]

theorem given?_values_append (s : Setting) :
    s.given? ((values?.map fun v => (.str valuesKey, v)).toList ++ es) = s.given? es := by
  refine Setting.given?_congr fun k spelled => get?_values_append values? ?_
  rintro rfl
  exact s.valuesKey_not_mem_spellings spelled

theorem spelledAlike_values_append {fs : Entries} :
    SpelledAlike fs ((values?.map fun v => (.str valuesKey, v)).toList ++ es)
      ↔ SpelledAlike fs es := by
  have present (s : Setting) {k : String} (spelled : k ∈ s.spellings) :
      hasKey ((values?.map fun v => (.str valuesKey, v)).toList ++ es) (.str k)
        = hasKey es (.str k) := by
    rw [← isSome_get?, get?_values_append values?, isSome_get?]
    rintro rfl
    exact s.valuesKey_not_mem_spellings spelled
  refine forall_congr' fun s => forall₂_congr fun k _ => forall₂_congr fun k' spelled' => ?_
  rw [present s spelled']

theorem wellKeyed_values_append (wellKeyed : WellKeyed es) :
    WellKeyed ((values?.map fun v => (.str valuesKey, v)).toList ++ es) where
  known key member := by
    rw [keys, List.map_append, List.mem_append] at member
    rcases member with isValues | inside
    · cases values? with
      | none => cases isValues
      | some v => exact .inl (List.mem_singleton.1 isValues)
    · exact wellKeyed.known key inside
  once := by
    have once := (spelledAlike_values_append values?).2 wellKeyed.once
    exact (spelledAlike_values_append values?).2 once.symm

end

end Config

end Criteria
