import Criteria.Proofs.Config.Writes
import Mathlib.Data.List.Basic
import Mathlib.Data.List.Forall2

/-! # The last writes of a chain

A chain of calls leaves a criterion as if it had been configured at once, with what the calls wrote
last.

* `Edit.lastValues?`, `Edit.lastSetting?` — what some calls write last, attribute by attribute;
* `Criterion.values_editAll`, `Criterion.setting_editAll` — the state after these calls;
* `Edit.lastWrites` — the last writes as changes of a configuration.
-/

namespace Criteria

/-! ## What calls write last -/

namespace Edit

/-- The values that a call gives. -/
def values? : Edit → Option Value
  | .equal v | .anyOf v | .allOf v | .noneOf v | .variant _ v => some v
  | .bound _ _ | .between _ _ | .fromTo _ _ => none

/-- Whether all values have to match, if a call decides that. -/
def combine? : Edit → Option Value
  | .anyOf _ => some (.bool false)
  | .allOf _ => some (.bool true)
  | _ => none

def excludes : Edit → Bool
  | .noneOf _ => true
  | _ => false

def chooses (form : Variant) : Edit → Bool
  | .variant form' _ => form' == form
  | _ => false

def ranges : Edit → Bool
  | .bound _ _ | .between _ _ | .fromTo _ _ => true
  | _ => false

/-- The ends that a call gives for a bound. -/
def ends (b : Bound) : Edit → List Value
  | .bound b' v => if b' = b then [v] else []
  | .between low high => match b with
    | .above => [low]
    | .below => [high]
    | _ => []
  | .fromTo low high => match b with
    | .atLeast => [low]
    | .atMost => [high]
    | _ => []
  | _ => []

/-- The values that are given last. -/
def lastValues? (es : List Edit) : Option Value :=
  (es.filterMap values?).getLast?

/-- What a setting is set to last.  Flags are never taken back. -/
def lastSetting? (es : List Edit) : Setting → Option Value
  | .combine => (es.filterMap combine?).getLast?
  | .exclude => if es.any excludes then some (.bool true) else none
  | .leading => if es.any (chooses .leading) then some (.bool true) else none
  | .anywhere => if es.any (chooses .anywhere) then some (.bool true) else none
  | .analyzed => if es.any (chooses .analyzed) then some (.bool true) else none
  | .completing => if es.any (chooses .completing) then some (.bool true) else none
  | .range => if es.any ranges then some (.bool true) else none
  | .bound b => (es.flatMap (ends b)).getLast?
  | _ => none

/-- The last writes of some calls. -/
def lastWrites (es : List Edit) : List Write :=
  ((lastValues? es).map .values).toList
    ++ Setting.all.filterMap fun s => (lastSetting? es s).map (.setting s)

end Edit

/-! ## The state after some writes -/

namespace Write

def values? : Write → Option Value
  | .values v => some v
  | .setting _ _ => none

def at? (s : Setting) : Write → Option Value
  | .values _ => none
  | .setting s' v => if s' = s then some v else none

theorem eq_setting_of_at? {s : Setting} {w : Write} {v : Value} (writes : w.at? s = some v) :
    w = .setting s v := by
  cases w with
  | values v' => cases writes
  | setting s' v' =>
    by_cases same : s' = s
    · rw [at?, if_pos same] at writes
      rw [same, Option.some.inj writes]
    · rw [at?, if_neg same] at writes
      cases writes

end Write

namespace Criterion

theorem values_writeAll (c : Criterion) (ws : List Write) :
    (c.writeAll ws).values =
      ((ws.filterMap Write.values?).getLast?.map Value.items).getD c.values := by
  induction ws generalizing c with
  | nil => rfl
  | cons w ws inductionHypothesis =>
    rw [writeAll_cons, inductionHypothesis]
    cases w with
    | setting s v => rfl
    | values v =>
      rw [List.filterMap_cons, Write.values?, List.getLast?_cons]
      cases (ws.filterMap Write.values?).getLast? <;> rfl

theorem setting_writeAll_eq (c : Criterion) (ws : List Write) (s : Setting) :
    (c.writeAll ws).setting s = ((ws.filterMap (Write.at? s)).getLast?).getD (c.setting s) := by
  induction ws generalizing c with
  | nil => rfl
  | cons w ws inductionHypothesis =>
    rw [writeAll_cons, inductionHypothesis]
    cases w with
    | values v => rfl
    | setting s' v =>
      rw [List.filterMap_cons, Write.at?, write, setting_set]
      by_cases same : s' = s
      · rw [if_pos same, if_pos same.symm, List.getLast?_cons]
        cases (ws.filterMap (Write.at? s)).getLast? <;> rfl
      · rw [if_neg same, if_neg (Ne.symm same)]

end Criterion

/-! ## The state after some calls -/

namespace Edit

/-- A flag that each call either sets or leaves alone is set in the end if some call sets it. -/
theorem getLast?_flatMap_of_flag {p : Edit → Bool} {f : Edit → List Value} {v : Value}
    (each : ∀ e, (f e).getLast? = if p e then some v else none) (es : List Edit) :
    (es.flatMap f).getLast? = if es.any p then some v else none := by
  induction es with
  | nil => rfl
  | cons e es inductionHypothesis =>
    rw [List.flatMap_cons, List.getLast?_append, inductionHypothesis, each, List.any_cons]
    cases p e <;> cases es.any p <;> rfl

theorem filterMap_values?_writes (e : Edit) :
    e.writes.filterMap Write.values? = e.values?.toList := by
  cases e <;> rfl

theorem lastValues?_eq (es : List Edit) :
    lastValues? es = ((es.flatMap writes).filterMap Write.values?).getLast? := by
  rw [lastValues?, List.filterMap_flatMap, List.filterMap_eq_flatMap_toList]
  simp only [filterMap_values?_writes]

theorem flatMap_at?_of_fixed {s : Setting} (fixed : s ∈ Setting.fixed) (es : List Edit) :
    (es.flatMap fun e => e.writes.filterMap (Write.at? s)) = [] := by
  rw [List.flatMap_eq_nil_iff]
  intro e _
  rw [List.filterMap_eq_nil_iff]
  intro w member
  cases writes : w.at? s with
  | none => rfl
  | some v =>
    have fits := e.writes_fit w member
    rw [Write.eq_setting_of_at? writes] at fits
    exact absurd fixed fits.1

theorem lastSetting?_eq (es : List Edit) (s : Setting) :
    lastSetting? es s = ((es.flatMap writes).filterMap (Write.at? s)).getLast? := by
  rw [List.filterMap_flatMap]
  -- setting by setting, from what a single call writes to it
  cases s with
  | combine =>
    have each (e : Edit) : e.writes.filterMap (Write.at? .combine) = e.combine?.toList := by
      cases e with
      | variant form v => cases form <;> rfl
      | bound b v => cases b <;> rfl
      | _ => rfl
    simp only [lastSetting?, each, List.filterMap_eq_flatMap_toList]
  | bound b =>
    have each (e : Edit) : e.writes.filterMap (Write.at? (.bound b)) = e.ends b := by
      cases e with
      | variant form v => cases form <;> rfl
      | bound b' v => cases b <;> cases b' <;> rfl
      | between low high | fromTo low high => cases b <;> rfl
      | _ => rfl
    simp only [lastSetting?, each]
  | exclude | leading | anywhere | analyzed | completing | range =>
    rw [lastSetting?, getLast?_flatMap_of_flag]
    intro e
    cases e with
    | variant form v => cases form <;> rfl
    | bound b v => cases b <;> rfl
    | _ => rfl
  | name | field | single | fields | override | transform | labels | catalog | engine =>
    rw [flatMap_at?_of_fixed (by decide)]
    rfl

end Edit

namespace Criterion

theorem values_editAll (c : Criterion) (es : List Edit) :
    (c.editAll es).values = ((Edit.lastValues? es).map Value.items).getD c.values := by
  rw [editAll_eq_writeAll, values_writeAll, Edit.lastValues?_eq]

theorem setting_editAll (c : Criterion) (es : List Edit) (s : Setting) :
    (c.editAll es).setting s = (Edit.lastSetting? es s).getD (c.setting s) := by
  rw [editAll_eq_writeAll, setting_writeAll_eq, Edit.lastSetting?_eq]

/-- Calls with the same last writes are interchangeable. -/
theorem editAll_congr (c : Criterion) {es es' : List Edit}
    (values : Edit.lastValues? es = Edit.lastValues? es')
    (settings : ∀ s, Edit.lastSetting? es s = Edit.lastSetting? es' s) :
    c.editAll es = c.editAll es' := by
  apply Criterion.ext
  · rw [values_editAll, values_editAll, values]
  · funext s
    rw [setting_editAll, setting_editAll, settings]

end Criterion

/-! ## The last writes as changes -/

namespace Edit

theorem lastWrites_fit (es : List Edit) : ∀ w ∈ lastWrites es, w.Fits := by
  intro w member
  rcases List.mem_append.1 member with isValues | isSetting
  · rw [Option.mem_toList, Option.map_eq_some_iff] at isValues
    obtain ⟨v, _, rfl⟩ := isValues
    trivial
  · obtain ⟨s, _, isLast⟩ := List.mem_filterMap.1 isSetting
    obtain ⟨v, isLastValue, rfl⟩ := Option.map_eq_some_iff.1 isLast
    -- what is written last is written by some call
    rw [lastSetting?_eq] at isLastValue
    obtain ⟨w, isWrite, writes⟩ := List.mem_filterMap.1 (List.mem_of_getLast? isLastValue)
    obtain ⟨e, _, isWrite⟩ := List.mem_flatMap.1 isWrite
    rw [← Write.eq_setting_of_at? writes]
    exact e.writes_fit w isWrite

theorem values?_lastWrites (es : List Edit) :
    ((lastWrites es).filterMap Write.values?).getLast? = lastValues? es := by
  have settings (ss : List Setting) : (ss.filterMap fun s =>
      (lastSetting? es s).map (Write.setting s)).filterMap Write.values? = [] := by
    rw [List.filterMap_eq_nil_iff]
    intro w member
    obtain ⟨s, _, isSetting⟩ := List.mem_filterMap.1 member
    obtain ⟨v, _, rfl⟩ := Option.map_eq_some_iff.1 isSetting
    rfl
  rw [lastWrites, List.filterMap_append, settings, List.append_nil]
  cases lastValues? es <;> rfl

theorem at?_lastWrites (es : List Edit) (s : Setting) :
    ((lastWrites es).filterMap (Write.at? s)).getLast? = lastSetting? es s := by
  have settings (ss : List Setting) : ((ss.filterMap fun s' =>
      (lastSetting? es s').map (Write.setting s')).filterMap (Write.at? s)).getLast?
        = if s ∈ ss then lastSetting? es s else none := by
    -- for any list of settings, since one that occurs twice is written twice with the same value
    induction ss with
    | nil => rfl
    | cons s' ss inductionHypothesis =>
      rw [List.filterMap_cons]
      cases isLast : lastSetting? es s' with
      | none =>
        rw [Option.map_none, inductionHypothesis]
        by_cases same : s = s'
        · simp [same, isLast]
        · simp [same]
      | some v =>
        rw [Option.map_some, List.filterMap_cons, Write.at?]
        by_cases same : s' = s
        · rw [if_pos same, List.getLast?_cons, inductionHypothesis]
          simp only [← same, isLast, List.mem_cons_self, ↓reduceIte]
          split <;> rfl
        · rw [if_neg same, inductionHypothesis]
          simp [Ne.symm same]
  have values : (((lastValues? es).map Write.values).toList).filterMap (Write.at? s) = [] := by
    cases lastValues? es <;> rfl
  rw [lastWrites, List.filterMap_append, values, List.nil_append, settings, if_pos s.mem_all]

end Edit

theorem Criterion.writeAll_lastWrites (c : Criterion) (es : List Edit) :
    c.writeAll (Edit.lastWrites es) = c.editAll es := by
  apply Criterion.ext
  · rw [values_writeAll, values_editAll, Edit.values?_lastWrites]
  · funext s
    rw [setting_writeAll_eq, setting_editAll, Edit.at?_lastWrites]

end Criteria
