import Criteria.Fault.Outcome
import Criteria.Proofs.Config.Description

/-! # What settings hold

A criterion that was read has in each setting a value of the kind that the setting is for.

* `Shape.Holds`, `Setting.Holds` — the values that a shape, or a setting, is for;
* `Criterion.Typed` — a criterion whose settings all hold such values.

Reading gives such a value (`holds_of_read`), and gives one back as it is (`readValue_of_holds`).
-/

namespace Criteria

/-! ## Shapes -/

namespace Shape

def Holds : Shape → Value → Prop
  | .text, v => ∃ s, v = .str s
  | .flag, v => ∃ b, v = .bool b
  | .anything, _ => True
  | .texts, v => ∃ items, v = .list items ∧ ∀ item ∈ items, ∃ s, item = .str s
  | .mapping, v => ∃ es, v = .map es ∧ Entries.Textual es
  | .transform, v => ∃ t, v = .transform t
  | .options, v => ∃ o, v = .options o
  | .catalog, v => ∃ name, v = .catalog name

theorem textIssues_eq_nil {index : Int} {items : List Value} :
    Value.textIssues index items = [] ↔ ∀ item ∈ items, ∃ s, item = .str s := by
  induction items generalizing index with
  | nil => simp [Value.textIssues]
  | cons item items inductionHypothesis =>
    rw [Value.textIssues, List.append_eq_nil_iff, inductionHypothesis, List.forall_mem_cons]
    refine and_congr_left fun _ => ?_
    cases item with
    | str s => exact ⟨fun _ => ⟨s, rfl⟩, fun _ => rfl⟩
    | _ => exact ⟨nofun, nofun⟩

theorem readMap_eq_ok {v : Value} {es : Entries} :
    v.readMap = .ok es ↔ v = .map es ∧ Entries.Textual es := by
  cases v with
  | map entries =>
    simp only [Value.readMap]
    split
    next clean =>
      constructor
      · intro reads
        cases reads
        exact ⟨rfl, Entries.keyIssues_eq_nil.1 clean⟩
      · rintro ⟨⟨⟩, _⟩
        rfl
    next notEmpty =>
      constructor
      · intro reads
        cases reads
      · rintro ⟨⟨⟩, textual⟩
        exact absurd (Entries.keyIssues_eq_nil.2 textual) notEmpty
  | _ => simp [Value.readMap, Reading.refuse]

theorem holds_of_read {shape : Shape} {v w : Value} (accepted : shape.read v = .ok w) :
    shape.Holds w := by
  cases shape with
  | anything => trivial
  | texts =>
    obtain ⟨items, reads, rfl⟩ := Outcome.map_eq_ok.1 accepted
    refine ⟨items, rfl, ?_⟩
    unfold Value.readTexts at reads
    split at reads
    · split at reads
      next clean =>
        cases reads
        exact textIssues_eq_nil.1 clean
      next => cases reads
    · cases reads
  | mapping =>
    obtain ⟨es, reads, rfl⟩ := Outcome.map_eq_ok.1 accepted
    exact ⟨es, rfl, (readMap_eq_ok.1 reads).2⟩
  | _ =>
    obtain ⟨a, _, rfl⟩ := Outcome.map_eq_ok.1 accepted
    exact ⟨a, rfl⟩

theorem read_of_holds {shape : Shape} {v : Value} (holds : shape.Holds v) :
    shape.read v = .ok v := by
  cases shape with
  | anything => rfl
  | texts =>
    obtain ⟨items, rfl, texts⟩ := holds
    have clean : Value.textIssues 0 items = [] := textIssues_eq_nil.2 texts
    refine Outcome.map_eq_ok.2 ⟨items, ?_, rfl⟩
    simp only [Value.readTexts, Value.sequence?, Value.elements?, clean]
  | mapping =>
    obtain ⟨es, rfl, textual⟩ := holds
    exact Outcome.map_eq_ok.2 ⟨es, readMap_eq_ok.2 ⟨rfl, textual⟩, rfl⟩
  | _ =>
    obtain ⟨a, rfl⟩ := holds
    rfl

/-- The shapes whose values are read as they are. -/
def verbatim : List Shape :=
  [.text, .anything, .mapping, .transform, .catalog]

theorem eq_of_read {shape : Shape} (asIs : shape ∈ verbatim) {v w : Value}
    (accepted : shape.read v = .ok w) : w = v := by
  cases shape with
  | flag | texts | options => exact absurd asIs (by decide)
  | anything => exact (Except.ok.inj accepted).symm
  | mapping =>
    obtain ⟨es, reads, rfl⟩ := Outcome.map_eq_ok.1 accepted
    exact (readMap_eq_ok.1 reads).1.symm
  | text | transform | catalog =>
    obtain ⟨a, reads, rfl⟩ := Outcome.map_eq_ok.1 accepted
    cases v <;> cases reads
    rfl

end Shape

/-! ## Settings -/

namespace Setting

def Holds (s : Setting) (v : Value) : Prop :=
  (s.optional = true ∧ v = .null) ∨ s.shape.Holds v

theorem holds_of_readValue {s : Setting} {v w : Value} (accepted : s.readValue v = .ok w) :
    s.Holds w := by
  unfold readValue at accepted
  split at accepted
  next isNull =>
    rw [Bool.and_eq_true] at isNull
    cases accepted
    exact .inl ⟨isNull.1, rfl⟩
  next => exact .inr (Shape.holds_of_read accepted)

theorem readValue_of_holds {s : Setting} {v : Value} (holds : s.Holds v) :
    s.readValue v = .ok v := by
  unfold readValue
  rcases holds with ⟨optional, rfl⟩ | holds
  · rw [optional]
    rfl
  · split
    next isNull =>
      rw [Bool.and_eq_true] at isNull
      rw [Value.isNull_eq_true.1 isNull.2]
    next => exact Shape.read_of_holds holds

theorem eq_of_readValue {s : Setting} (asIs : s.shape ∈ Shape.verbatim) {v w : Value}
    (accepted : s.readValue v = .ok w) : w = v := by
  unfold readValue at accepted
  split at accepted
  next isNull =>
    rw [Bool.and_eq_true, Value.isNull_eq_true] at isNull
    cases accepted
    exact isNull.2.symm
  next => exact Shape.eq_of_read asIs accepted

theorem holds_default {s : Setting} (free : s.required = false) : s.Holds s.default := by
  cases s with
  | name => cases free
  | field | combine | exclude | bound _ | fields | override | labels | catalog | engine =>
    exact .inl ⟨rfl, rfl⟩
  | analyzed | leading | anywhere | completing | single | range => exact .inr ⟨false, rfl⟩
  | transform => exact .inr ⟨.identity, rfl⟩

theorem under_eq_ok {α : Type} {r : Reading α} {place : Place} {a : α} :
    r.under place = .ok a ↔ r = .ok a := by
  cases r with
  | ok b => exact Iff.rfl
  | error issues => exact ⟨nofun, nofun⟩

theorem holds_of_read {es : Entries} {s : Setting} {v : Value} (accepted : s.read es = .ok v) :
    s.Holds v := by
  unfold read at accepted
  split at accepted
  · exact holds_of_readValue (under_eq_ok.1 accepted)
  · split at accepted
    next => cases accepted
    next free =>
      cases accepted
      exact holds_default (Bool.eq_false_iff.2 free)

theorem alias_ne_key {s : Setting} {k : String} (aliased : s.alias? = some k) : k ≠ s.key := by
  have table : ∀ s ∈ all, ∀ k ∈ s.alias?, k ≠ s.key := by decide
  exact table s s.mem_all k aliased

end Setting

/-! ## Criteria -/

namespace Criterion

def Typed (c : Criterion) : Prop :=
  ∀ s : Setting, s.Holds (c.setting s)

theorem typed_of_read {es : Entries} {c : Criterion} (accepted : Config.read es = .ok c) :
    c.Typed :=
  fun s => Setting.holds_of_read ((Config.read_eq_ok.1 accepted).settings s)

namespace Typed

variable {c : Criterion} (typed : c.Typed)

include typed

theorem set {s : Setting} {v : Value} (holds : s.Holds v) : (c.set s v).Typed := by
  intro s'
  rw [setting_set]
  split
  next same => exact same ▸ holds
  next => exact typed s'

theorem name : ∃ n : String, c.setting .name = .str n := by
  rcases typed .name with ⟨required, _⟩ | isText
  · cases required
  · exact isText

theorem field : c.setting .field = .null ∨ ∃ f : String, c.setting .field = .str f :=
  (typed .field).imp And.right id

theorem transform : ∃ t : Transform, c.setting .transform = .transform t := by
  rcases typed .transform with ⟨required, _⟩ | isFunction
  · cases required
  · exact isFunction

theorem override : c.setting .override = .null ∨ ∃ spec, c.setting .override = .map spec :=
  (typed .override).imp And.right fun ⟨spec, holds, _⟩ => ⟨spec, holds⟩

theorem labels : c.setting .labels = .null ∨ ∃ options, c.setting .labels = .options options :=
  (typed .labels).imp And.right id

theorem catalog : c.setting .catalog = .null ∨ ∃ name, c.setting .catalog = .catalog name :=
  (typed .catalog).imp And.right id

theorem combine : c.setting .combine = .null ∨ ∃ b, c.setting .combine = .bool b :=
  (typed .combine).imp And.right id

theorem exclude : c.setting .exclude = .null ∨ ∃ b, c.setting .exclude = .bool b :=
  (typed .exclude).imp And.right id

end Typed

end Criterion

end Criteria
