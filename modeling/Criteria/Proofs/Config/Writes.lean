import Criteria.Proofs.Criterion.Evolution

/-! # Writing to configurations

A change of one attribute can be made in the configuration of a criterion instead of in the
criterion.

* `Config.write`, `Config.writeAll` — a configuration with attributes changed;
* `Config.read_write` — what is read from it is the criterion with the attribute changed.

A change that fits leaves the labeller of the criterion and its overrides alone, so a configuration
that is accepted is accepted after such changes (`Criterion.ofEntries_overlay_writeAll`).
-/

namespace Criteria

open Entries

/-! ## Changed configurations -/

/-- The keys that may hold what is written. -/
def Write.keys : Write → List String
  | .values _ => [valuesKey]
  | .setting s _ => s.spellings

theorem Write.Fits.key_not_mem {w : Write} (fits : w.Fits) {s : Setting}
    (fixed : s ∈ Setting.fixed) : s.key ∉ w.keys := by
  intro member
  cases w with
  | values v => exact s.key_ne_valuesKey (List.mem_singleton.1 member)
  | setting s' v =>
    have same := Setting.eq_of_mem_spellings member s.key_mem_spellings
    exact fits.1 (same ▸ fixed)

namespace Config

/-- A configuration without the other spelling of a setting. -/
def dropAlias (es : Entries) (s : Setting) : Entries :=
  match s.alias? with
  | some k => erase es (.str k)
  | none => es

/-- A configuration with one attribute changed. -/
def write (es : Entries) : Write → Entries
  | .values v => insert es (.str valuesKey) v
  | .setting s v => insert (dropAlias es s) (.str s.key) v

/-- A configuration with several attributes changed, one after the other. -/
def writeAll (es : Entries) (ws : List Write) : Entries :=
  ws.foldl write es

theorem get?_dropAlias (es : Entries) (s : Setting) (k : String) :
    get? (dropAlias es s) (.str k) = if s.alias? = some k then none else get? es (.str k) := by
  unfold dropAlias
  cases s.alias? with
  | none => rfl
  | some k' => simp [get?_erase]

theorem get?_write_of_not_mem {w : Write} {k : String} (other : k ∉ w.keys) (es : Entries) :
    get? (write es w) (.str k) = get? es (.str k) := by
  cases w with
  | values v => exact get?_insert_of_ne v fun same => other (List.mem_singleton.2 same.symm)
  | setting s v =>
    have notKey : s.key ≠ k := fun same => other (same ▸ s.key_mem_spellings)
    have notAlias : s.alias? ≠ some k := by
      intro same
      exact other (by simp [Write.keys, Setting.spellings, same])
    rw [write, get?_insert_of_ne v notKey, get?_dropAlias, if_neg notAlias]

theorem get?_writeAll_of_not_mem {ws : List Write} {k : String} (other : ∀ w ∈ ws, k ∉ w.keys)
    (es : Entries) : get? (writeAll es ws) (.str k) = get? es (.str k) := by
  induction ws generalizing es with
  | nil => rfl
  | cons w ws inductionHypothesis =>
    rw [List.forall_mem_cons] at other
    exact (inductionHypothesis other.2 (write es w)).trans (get?_write_of_not_mem other.1 es)

/-- What is found where something may have been written does not depend on what was there. -/
theorem get?_write_of_mem {w : Write} {k : String} (written : k ∈ w.keys) (es fs : Entries) :
    get? (write es w) (.str k) = get? (write fs w) (.str k) := by
  cases w with
  | values v =>
    rw [List.mem_singleton.1 written, write, write, get?_insert_str, get?_insert_str]
  | setting s v =>
    by_cases isKey : s.key = k
    · rw [← isKey, write, write, get?_insert_str, get?_insert_str]
    · have isAlias : s.alias? = some k := by
        simpa [Write.keys, Setting.spellings, Ne.symm isKey] using written
      rw [write, write, get?_insert_of_ne v isKey, get?_insert_of_ne v isKey, get?_dropAlias,
        get?_dropAlias, if_pos isAlias, if_pos isAlias]

theorem textual_write {es : Entries} (textual : Textual es) (w : Write) :
    Textual (write es w) := by
  cases w with
  | values v => exact textual_insert.2 textual
  | setting s v =>
    refine textual_insert.2 ?_
    unfold dropAlias
    split
    · exact textual_erase textual _
    · exact textual

/-- Changes do not interfere with entries that are laid underneath at other keys. -/
theorem agree_write_overlay {w : Write} {base : Entries}
    (apart : ∀ k ∈ w.keys, get? base (.str k) = none) (es : Entries) :
    Agree (write (overlay base es) w) (overlay base (write es w)) := by
  intro k
  by_cases written : k ∈ w.keys
  · rw [get?_overlay, apart k written, Option.or_none]
    exact get?_write_of_mem written _ _
  · rw [get?_write_of_not_mem written, get?_overlay, get?_overlay, get?_write_of_not_mem written]

theorem agree_write_insert {w : Write} {k : String} (other : k ∉ w.keys) (es : Entries)
    (v : Value) : Agree (write (insert es (.str k) v) w) (insert (write es w) (.str k) v) := by
  intro k'
  by_cases written : k' ∈ w.keys
  · have differ : k ≠ k' := fun same => other (same ▸ written)
    rw [get?_insert_of_ne v differ]
    exact get?_write_of_mem written _ _
  · rw [get?_write_of_not_mem written, get?_insert, get?_insert, get?_write_of_not_mem written]

theorem agree_write_markSingle {w : Write} (fits : w.Fits) (es : Entries) :
    Agree (write (markSingle es) w) (markSingle (write es w)) := by
  unfold markSingle
  -- what fits writes neither the name, which decides here, nor the setting that it implies
  rw [get?_write_of_not_mem (fits.key_not_mem (s := .name) (by decide))]
  split
  · exact agree_write_insert (fits.key_not_mem (s := .single) (by decide)) es _
  · intro k
    rfl

/-! ## Descriptions -/

theorem spelling?_write_self (es : Entries) (s : Setting) (v : Value) :
    s.spelling? (write es (.setting s v)) = some s.key := by
  have present : hasKey (write es (.setting s v)) (.str s.key) = true := by
    rw [← isSome_get?, write, get?_insert_str]
    rfl
  rw [Setting.spelling?_of_no_alias, if_pos present]
  intro k aliased
  have notKey : s.key ≠ k := (Setting.alias_ne_key aliased).symm
  rw [← get?_eq_none, write, get?_insert_of_ne v notKey, get?_dropAlias, if_pos aliased]

theorem eq_key_of_written {es : Entries} {s : Setting} {v : Value} {k : String}
    (written : k ∈ s.spellings) (present : hasKey (write es (.setting s v)) (.str k) = true) :
    s.key = k := by
  by_contra notKey
  have isAlias : s.alias? = some k := by
    simpa [Setting.spellings, Ne.symm notKey] using written
  rw [← isSome_get?, write, get?_insert_of_ne v notKey, get?_dropAlias, if_pos isAlias] at present
  cases present

theorem read_write_self (es : Entries) {s : Setting} {v : Value} (holds : s.Holds v) :
    s.read (write es (.setting s v)) = .ok v := by
  unfold Setting.read
  rw [spelling?_write_self]
  refine Setting.under_eq_ok.2 ?_
  rw [write, get_insert_str]
  exact Setting.readValue_of_holds holds

theorem not_mem_keys {w : Write} {s : Setting} (other : ∀ v, w ≠ .setting s v) :
    ∀ k ∈ s.spellings, k ∉ w.keys := by
  intro k spelled written
  cases w with
  | values v => exact s.valuesKey_not_mem_spellings (List.mem_singleton.1 written ▸ spelled)
  | setting s' v =>
    rw [Setting.eq_of_mem_spellings spelled written] at other
    exact other v rfl

/-- A description follows a change that fits. -/
theorem Describes.write {es : Entries} {c : Criterion} (describes : Describes es c) {w : Write}
    (fits : w.Fits) : Describes (write es w) (c.write w) where
  textual := textual_write describes.textual w
  known k present := by
    rw [knows_iff]
    -- a key that was there before is read as before; a new one is the key of the attribute
    by_cases written : k ∈ w.keys
    · cases w with
      | values v => exact .inl (List.mem_singleton.1 written)
      | setting s v =>
        rw [← eq_key_of_written written present]
        exact .inr ⟨s, spelling?_write_self es s v⟩
    · rw [← isSome_get?, get?_write_of_not_mem written, isSome_get?] at present
      rcases knows_iff.1 (describes.known k present) with isValues | ⟨s, used⟩
      · exact .inl isValues
      · refine .inr ⟨s, ?_⟩
        have other (v : Value) : w ≠ .setting s v := by
          rintro rfl
          exact written (Setting.spelling?_eq_some used).1
        rw [← used]
        exact Setting.spelling?_congr fun k spelled =>
          get?_write_of_not_mem (not_mem_keys other k spelled) es
  labels := by
    have unwritten : Setting.labels.key ∉ w.keys := fits.key_not_mem (by decide)
    rw [strayLabelKeys, Entries.get, get?_write_of_not_mem unwritten]
    exact describes.labels
  values := by
    cases w with
    | values v => rw [Config.write, get_insert_str]; rfl
    | setting s v =>
      have unwritten : valuesKey ∉ (Write.setting s v).keys := s.valuesKey_not_mem_spellings
      rw [Entries.get, get?_write_of_not_mem unwritten]
      exact describes.values
  settings s := by
    by_cases touched : ∃ v, w = .setting s v
    · obtain ⟨v, rfl⟩ := touched
      rw [read_write_self es fits.2, Criterion.write, Criterion.setting_set, if_pos rfl]
    · have other (v : Value) : w ≠ .setting s v := fun same => touched ⟨v, same⟩
      have unread : s.read (Config.write es w) = s.read es := Setting.read_congr
        fun k spelled => get?_write_of_not_mem (not_mem_keys other k spelled) es
      rw [unread, describes.settings]
      cases w with
      | values v => rfl
      | setting s' v =>
        have differ : s ≠ s' := fun same => other v (same ▸ rfl)
        rw [Criterion.write, Criterion.setting_set, if_neg differ]

/-- Reading a configuration with an attribute changed gives the criterion with it changed. -/
theorem read_write {es : Entries} {c : Criterion} (accepted : read es = .ok c) {w : Write}
    (fits : w.Fits) : read (write es w) = .ok (c.write w) := by
  have textual := textual_write (textual_of_read accepted) w
  rw [read_eq_ok] at accepted ⊢
  exact (accepted.write fits).congr (textual_markSingle.2 textual) (agree_write_markSingle fits es)

theorem read_overlay_write {base es : Entries} {c : Criterion}
    (accepted : read (overlay base es) = .ok c) {w : Write} (fits : w.Fits)
    (apart : ∀ k ∈ w.keys, get? base (.str k) = none) :
    read (overlay base (write es w)) = .ok (c.write w) := by
  obtain ⟨lower, upper⟩ := textual_overlay.1 (textual_of_read accepted)
  exact read_congr (textual_overlay.2 ⟨lower, textual_write upper w⟩)
    (agree_write_overlay apart es) (read_write accepted fits)

theorem read_overlay_writeAll {base es : Entries} {c : Criterion}
    (accepted : read (overlay base es) = .ok c) {ws : List Write} (fit : ∀ w ∈ ws, w.Fits)
    (apart : ∀ w ∈ ws, ∀ k ∈ w.keys, get? base (.str k) = none) :
    read (overlay base (writeAll es ws)) = .ok (c.writeAll ws) := by
  induction ws generalizing es c with
  | nil => exact accepted
  | cons w ws inductionHypothesis =>
    rw [List.forall_mem_cons] at fit apart
    exact inductionHypothesis (read_overlay_write accepted fit.1 apart.1) fit.2 apart.2

end Config

/-! ## Accepted configurations -/

namespace Criterion

theorem checkLabeller_writeAll (cs : Catalogs) (c : Criterion) {ws : List Write}
    (fit : ∀ w ∈ ws, w.Fits) : (c.writeAll ws).checkLabeller cs = c.checkLabeller cs := by
  have labels : (c.writeAll ws).setting .labels = c.setting .labels :=
    setting_writeAll fit (by decide)
  have catalog : (c.writeAll ws).setting .catalog = c.setting .catalog :=
    setting_writeAll fit (by decide)
  simp only [checkLabeller, labelOptions?, Criterion.catalog, catalogName?, labels, catalog]

/-- A configuration with attributes changed is accepted as the criterion with them changed. -/
theorem ofEntries_overlay_writeAll {cs : Catalogs} {base es : Entries} {c : Criterion}
    (accepted : ofEntries cs (overlay base es) = .ok c) {ws : List Write} (fit : ∀ w ∈ ws, w.Fits)
    (apart : ∀ w ∈ ws, ∀ k ∈ w.keys, get? base (.str k) = none) :
    ofEntries cs (overlay base (Config.writeAll es ws)) = .ok (c.writeAll ws) := by
  obtain ⟨reads, known, probes⟩ := ofEntries_eq_ok.1 accepted
  refine ofEntries_eq_ok.2 ⟨Config.read_overlay_writeAll reads fit apart, ?_, ?_⟩
  · rw [checkLabeller_writeAll cs c fit]
    exact known
  · intro spec holds
    rw [setting_writeAll fit (by decide)] at holds
    obtain ⟨o, probed⟩ := probes spec holds
    refine ⟨o, ?_⟩
    rw [← probed, overrideConfig_congr fun s member => setting_writeAll fit ?_]
    revert s
    decide

end Criterion

end Criteria
