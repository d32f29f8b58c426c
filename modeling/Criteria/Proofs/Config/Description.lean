import Criteria.Criterion.Reading
import Criteria.Proofs.Config.Keys
import Mathlib.Data.List.Find

/-! # What a configuration describes

Reading a configuration succeeds when each setting can be read, no key is left over and the label
options have no stray keys.  `Config.Describes` states this setting by setting; `Config.read_eq_ok`
says that it is what reading amounts to.

The description depends on the value at each text alone (`Describes.congr`), so configurations that
agree describe the same criterion.
-/

namespace Criteria

/-! ## Spellings -/

namespace Setting

theorem key_mem_spellings (s : Setting) : s.key ∈ s.spellings := by
  simp [spellings]

theorem mem_spellings_of_alias {s : Setting} {k : String} (aliased : s.alias? = some k) :
    k ∈ s.spellings := by
  simp [spellings, aliased]

theorem valuesKey_not_mem_spellings (s : Setting) : valuesKey ∉ s.spellings := by
  cases s with
  | bound b => cases b <;> decide
  | _ => decide

/-- The setting with a spelling. -/
def ofSpelling? (k : String) : Option Setting :=
  all.find? fun s => s.spellings.contains k

theorem ofSpelling?_of_mem {s : Setting} {k : String} (spelled : k ∈ s.spellings) :
    ofSpelling? k = some s := by
  have table : ∀ s ∈ all, ∀ k ∈ s.spellings, ofSpelling? k = some s := by decide +kernel
  exact table s s.mem_all k spelled

theorem eq_of_mem_spellings {s s' : Setting} {k : String} (left : k ∈ s.spellings)
    (right : k ∈ s'.spellings) : s = s' :=
  Option.some.inj ((ofSpelling?_of_mem left).symm.trans (ofSpelling?_of_mem right))

theorem spelling?_eq_some {es : Entries} {s : Setting} {k : String}
    (used : s.spelling? es = some k) : k ∈ s.spellings ∧ Entries.hasKey es k = true :=
  ⟨List.mem_of_find?_eq_some used, by simpa using List.find?_some used⟩

/-- A setting whose alias is not used is spelled by its key. -/
theorem spelling?_of_no_alias {es : Entries} {s : Setting}
    (unused : ∀ k, s.alias? = some k → Entries.hasKey es k = false) :
    s.spelling? es = if Entries.hasKey es s.key then some s.key else none := by
  unfold spelling? spellings
  cases aliased : s.alias? with
  | none =>
    rw [Option.toList_none, List.nil_append, List.find?_singleton]
  | some k =>
    rw [Option.toList_some, List.singleton_append, List.find?_cons, unused k aliased,
      List.find?_singleton]

/-- A spelling counts as used, and a setting as read, by the values at its spellings alone. -/
theorem spelling?_congr {es fs : Entries} {s : Setting}
    (agree : ∀ k ∈ s.spellings, Entries.get? es (.str k) = Entries.get? fs (.str k)) :
    s.spelling? es = s.spelling? fs := by
  have same : ∀ k ∈ s.spellings, Entries.hasKey es k = Entries.hasKey fs k := by
    intro k spelled
    rw [← Entries.isSome_get?, ← Entries.isSome_get?, agree k spelled]
  exact List.find?_congr same

theorem read_congr {es fs : Entries} {s : Setting}
    (agree : ∀ k ∈ s.spellings, Entries.get? es (.str k) = Entries.get? fs (.str k)) :
    s.read es = s.read fs := by
  unfold read
  rw [spelling?_congr agree]
  cases used : s.spelling? fs with
  | none => rfl
  | some k =>
    have spelled := (spelling?_eq_some used).1
    simp only [Entries.get, agree k spelled]

theorem read_of_used {es : Entries} {s : Setting} {k : String} (used : s.spelling? es = some k) :
    s.read es = (s.readValue (Entries.get es k)).under (.key k) := by
  rw [read, used]

theorem read_of_unused {es : Entries} {s : Setting} (unused : s.spelling? es = none) :
    s.read es = if s.required then .error [.atKey s.key .missing] else .ok s.default := by
  rw [read, unused]

end Setting

/-! ## Readings that fail have issues -/

namespace Reading

variable {α β : Type}

def Founded (r : Reading α) : Prop :=
  r ≠ .error []

theorem founded_ok (a : α) : Founded (.ok a) := nofun

theorem founded_refuse (kind : IssueKind) : Founded (refuse kind : Reading α) := nofun

theorem Founded.map {r : Reading α} (founded : r.Founded) (f : α → β) : Founded (r.map f) := by
  cases r with
  | ok a => exact founded_ok (f a)
  | error issues =>
    intro equal
    apply founded
    injection equal with empty
    rw [empty]

theorem Founded.under {r : Reading α} (founded : r.Founded) (place : Place) :
    Founded (r.under place) := by
  cases r with
  | ok a => exact founded_ok a
  | error issues =>
    intro equal
    apply founded
    injection equal with empty
    rw [List.map_eq_nil_iff.1 empty]

theorem Founded.eq_ok {r : Reading α} (founded : r.Founded) (clean : r.issues = []) :
    ∃ a, r = .ok a := by
  cases r with
  | ok a => exact ⟨a, rfl⟩
  | error issues => exact absurd (congrArg Except.error clean) founded

end Reading

open Reading

theorem Value.readText_founded (v : Value) : v.readText.Founded := by
  cases v <;> first | exact founded_ok _ | exact founded_refuse _

theorem Value.readNumberFlag_founded (inWord : Bool) (n : Int) :
    (Value.readNumberFlag inWord n).Founded := by
  unfold readNumberFlag
  split
  · exact founded_ok _
  · split
    · exact founded_ok _
    · split <;> exact founded_refuse _

theorem Value.readFlag_founded (v : Value) : v.readFlag.Founded := by
  cases v with
  | bool b => exact founded_ok b
  | int n => exact readNumberFlag_founded _ n
  | float x =>
    simp only [readFlag]
    split
    · exact readNumberFlag_founded _ _
    · exact founded_refuse _
  | str s =>
    simp only [readFlag]
    split
    · exact founded_ok _
    · split
      · exact founded_ok _
      · exact founded_refuse _
  | _ => exact founded_refuse _

theorem Value.readTexts_founded (v : Value) : v.readTexts.Founded := by
  unfold readTexts
  split
  · split
    next => exact founded_ok _
    next issues notEmpty =>
      intro equal
      injection equal with empty
      exact notEmpty empty
  · exact founded_refuse _

theorem Value.readMap_founded (v : Value) : v.readMap.Founded := by
  cases v with
  | map es =>
    simp only [readMap]
    split
    next => exact founded_ok _
    next issues notEmpty =>
      intro equal
      injection equal with empty
      exact notEmpty empty
  | _ => exact founded_refuse _

theorem Labels.Options.read_founded (v : Value) : (Labels.Options.read v).Founded := by
  cases v with
  | options o => exact founded_ok o
  | map es =>
    simp only [read, readEntries]
    split
    next => exact founded_ok _
    next issues notEmpty =>
      intro equal
      injection equal with empty
      exact notEmpty empty
  | _ => exact founded_refuse _

theorem Shape.read_founded (shape : Shape) (v : Value) : (shape.read v).Founded := by
  cases shape with
  | text => exact v.readText_founded.map _
  | flag => exact v.readFlag_founded.map _
  | anything => exact founded_ok v
  | texts => exact v.readTexts_founded.map _
  | mapping => exact v.readMap_founded.map _
  | transform => cases v <;> first | exact founded_ok _ | exact founded_refuse _
  | options => exact (Labels.Options.read_founded v).map _
  | catalog => cases v <;> first | exact founded_ok _ | exact founded_refuse _

theorem Setting.read_founded (es : Entries) (s : Setting) : (s.read es).Founded := by
  unfold read
  split
  · apply Founded.under
    unfold readValue
    split
    · exact founded_ok _
    · exact s.shape.read_founded _
  · split
    · nofun
    · exact founded_ok _

/-! ## Descriptions -/

namespace Entries

theorem filter_keyText?_eq_nil {es : Entries} :
    (es.filter fun e => e.1.keyText?.isNone) = [] ↔ Textual es := by
  rw [List.filter_eq_nil_iff]
  refine forall₂_congr fun e _ => ?_
  cases e.1 with
  | str k => exact ⟨fun _ => ⟨k, rfl⟩, fun _ => nofun⟩
  | _ => simp [Value.keyText?]

theorem strayIssues_eq_nil {known : String → Bool} {es : Entries} :
    strayIssues known es = [] ↔ Textual es ∧ ∀ k : String, hasKey es k = true → known k = true := by
  unfold strayIssues
  rw [List.append_eq_nil_iff, List.map_eq_nil_iff, List.map_eq_nil_iff, Text.sortWords_eq_nil,
    filter_keyText?_eq_nil]
  refine and_congr_right fun textual => ?_
  rw [List.filter_eq_nil_iff]
  constructor
  · intro noUnknown k present
    obtain ⟨e, member, isText⟩ := List.mem_map.1 (hasKey_str_iff.1 present)
    have isKey : k ∈ es.textKeys := List.mem_filterMap.2 ⟨e, member, by rw [isText]; rfl⟩
    simpa using noUnknown k isKey
  · intro allKnown k isKey
    obtain ⟨e, member, isText⟩ := List.mem_filterMap.1 isKey
    obtain ⟨k', key⟩ := textual e member
    rw [key] at isText
    cases isText
    simp [allKnown k (hasKey_str_iff.2 (List.mem_map.2 ⟨e, member, key⟩))]

theorem keyIssues_eq_nil {es : Entries} : Value.keyIssues es = [] ↔ Textual es := by
  rw [Value.keyIssues, List.map_eq_nil_iff, filter_keyText?_eq_nil]

end Entries

namespace Config

/-- A configuration whose entries describe a criterion, one setting after the other. -/
structure Describes (es : Entries) (c : Criterion) : Prop where
  textual : Entries.Textual es
  known : ∀ k : String, Entries.hasKey es k = true → knows es k = true
  labels : strayLabelKeys es = []
  values : c.values = (Entries.get es valuesKey).items
  settings : ∀ s : Setting, s.read es = .ok (c.setting s)

theorem knows_iff {es : Entries} {k : String} :
    knows es k = true ↔ k = valuesKey ∨ ∃ s : Setting, s.spelling? es = some k := by
  unfold knows
  rw [Bool.or_eq_true, beq_iff_eq, List.any_eq_true]
  constructor
  · rintro (isValues | ⟨s, _, reads⟩)
    · exact .inl isValues
    · rw [Bool.and_eq_true, beq_iff_eq] at reads
      exact .inr ⟨s, reads.2⟩
  · rintro (isValues | ⟨s, used⟩)
    · exact .inl isValues
    · refine .inr ⟨s, s.mem_all, ?_⟩
      simp [used, (Setting.spelling?_eq_some used).1]

theorem issues_eq_nil {es : Entries} :
    issues es = [] ↔ (∀ s : Setting, ∃ v, s.read es = .ok v) ∧ Entries.Textual es ∧
      ∀ k : String, Entries.hasKey es k = true → knows es k = true := by
  unfold issues
  rw [List.append_eq_nil_iff, Entries.strayIssues_eq_nil, List.flatMap_eq_nil_iff]
  refine and_congr_left fun _ => ?_
  constructor
  · intro clean s
    exact (s.read_founded es).eq_ok (clean s s.mem_all)
  · intro readable s _
    obtain ⟨v, reads⟩ := readable s
    rw [Setting.issues, reads, issues_ok]

theorem Describes.eq_contents {es : Entries} {c : Criterion} (describes : Describes es c) :
    c = contents es := by
  apply Criterion.ext
  · exact describes.values
  · funext s
    simp only [contents, describes.settings s, getD_ok]

theorem readEntries_eq_ok {es : Entries} {c : Criterion} :
    readEntries es = .ok c ↔ Describes es c := by
  unfold readEntries
  constructor
  · intro accepted
    split at accepted
    next => cases accepted
    next noStray =>
      split at accepted
      next clean =>
        cases accepted
        obtain ⟨readable, textual, known⟩ := issues_eq_nil.1 clean
        refine ⟨textual, known, Classical.not_not.1 noStray, rfl, fun s => ?_⟩
        obtain ⟨v, reads⟩ := readable s
        simp only [contents, reads, getD_ok]
      next => cases accepted
  · intro describes
    have clean : issues es = [] :=
      issues_eq_nil.2 ⟨fun s => ⟨_, describes.settings s⟩, describes.textual, describes.known⟩
    rw [describes.labels, clean, ← describes.eq_contents]
    rfl

theorem read_eq_ok {es : Entries} {c : Criterion} :
    read es = .ok c ↔ Describes (markSingle es) c :=
  readEntries_eq_ok

/-! ## Agreement -/

theorem get?_markSingle {es : Entries} {k : String} (other : k ≠ Setting.single.key) :
    Entries.get? (markSingle es) (.str k) = Entries.get? es (.str k) := by
  unfold markSingle
  split
  · exact Entries.get?_insert_of_ne _ other.symm
  · rfl

theorem get_markSingle {es : Entries} {k : String} (other : k ≠ Setting.single.key) :
    Entries.get (markSingle es) (.str k) = Entries.get es (.str k) := by
  rw [Entries.get, get?_markSingle other, Entries.get]

theorem knows_congr {es fs : Entries} (agree : Entries.Agree es fs) (k : String) :
    knows es k = knows fs k := by
  have used (s : Setting) : s.spelling? es = s.spelling? fs :=
    Setting.spelling?_congr fun k _ => agree k
  simp only [knows, used]

/-- Configurations that agree describe the same criterion. -/
theorem Describes.congr {es fs : Entries} {c : Criterion} (describes : Describes es c)
    (textual : Entries.Textual fs) (agree : Entries.Agree es fs) : Describes fs c where
  textual := textual
  known k present := by
    rw [← knows_congr agree]
    exact describes.known k ((agree.hasKey k).trans present)
  labels := by
    rw [strayLabelKeys, ← agree.get]
    exact describes.labels
  values := by rw [describes.values, agree.get]
  settings s := by rw [← Setting.read_congr fun k _ => agree k, describes.settings]

theorem textual_markSingle {es : Entries} :
    Entries.Textual (markSingle es) ↔ Entries.Textual es := by
  unfold markSingle
  split
  · exact Entries.textual_insert
  · exact Iff.rfl

theorem agree_markSingle {es fs : Entries} (agree : Entries.Agree es fs) :
    Entries.Agree (markSingle es) (markSingle fs) := by
  unfold markSingle
  rw [agree Setting.name.key]
  split
  · exact agree.insert _ _
  · exact agree

theorem read_congr {es fs : Entries} {c : Criterion} (textual : Entries.Textual fs)
    (agree : Entries.Agree es fs) (accepted : read es = .ok c) : read fs = .ok c := by
  rw [read_eq_ok] at accepted ⊢
  exact accepted.congr (textual_markSingle.2 textual) (agree_markSingle agree)

theorem textual_of_read {es : Entries} {c : Criterion} (accepted : read es = .ok c) :
    Entries.Textual es :=
  textual_markSingle.1 (read_eq_ok.1 accepted).textual

end Config

end Criteria
