import Criteria.Proofs.Criterion.Contents

/-! # Valid configurations

What a configuration has to be for a criterion to be read from it, said without the readers.

* `Shape.Accepts`, `Setting.Accepts` — the values that can be given for a shape, or for a setting;
* `Labels.Options.Accepts` — the mappings that can be given for label options;
* `Config.Valid` — a configuration with a name, fitting values, and known keys in one spelling each.

More can be given for a setting than it holds afterwards: numbers and words for flags, mappings for
label options.  `Config.issues_eq_nil_iff_valid` says that the configurations without issues are the
valid ones.
-/

namespace Criteria

open Entries

/-! ## Label options -/

namespace Labels.Options

/-- A mapping with keys of label options alone.  The fields may be null, the labeller may not. -/
structure Accepts (es : Entries) : Prop where
  known : ∀ key ∈ keys es, ∃ k ∈ optionKeys, key = .str k
  keyField : ∀ v, get? es "key" = some v → v = .null ∨ ∃ s, v = .str s
  labelField : ∀ v, get? es "label" = some v → v = .null ∨ ∃ s, v = .str s
  labeller : ∀ v, get? es "resolver" = some v → ∃ s, v = .str s

/-- The labeller that a mapping of label options names. -/
def labellerOf (es : Entries) : String :=
  match get? es "resolver" with
  | some (.str name) => name
  | _ => defaultLabeller

theorem issues_readOptional {es : Entries} {k : String} :
    (readOptional es k).issues = [] ↔
      ∀ v, get? es (.str k) = some v → v = .null ∨ ∃ s, v = .str s := by
  unfold readOptional
  cases get? es (.str k) with
  | none => simp
  | some v =>
    cases v <;>
      simp [Value.readText, Reading.refuse, Reading.under, Except.map, Reading.issues]

theorem issues_readLabeller {es : Entries} :
    (readLabeller es).issues = [] ↔ ∀ v, get? es "resolver" = some v → ∃ s, v = .str s := by
  unfold readLabeller
  cases get? es "resolver" with
  | none => simp
  | some v => cases v <;> simp [Value.readText, Reading.refuse, Reading.under, Reading.issues]

theorem issues_eq_nil {es : Entries} : issues es = [] ↔ Accepts es := by
  have known :
      (Textual es ∧ ∀ k : String, Entries.hasKey es k = true → optionKeys.contains k = true) ↔
        ∀ key ∈ keys es, ∃ k ∈ optionKeys, key = .str k := by
    constructor
    · rintro ⟨textual, known⟩ key member
      obtain ⟨e, inside, rfl⟩ := List.mem_map.1 member
      obtain ⟨k, isText⟩ := textual e inside
      refine ⟨k, ?_, isText⟩
      simpa using known k (hasKey_str_iff.2 (isText ▸ member))
    · intro known
      refine ⟨fun e inside => ?_, fun k present => ?_⟩
      · obtain ⟨k, _, isText⟩ := known e.1 (List.mem_map.2 ⟨e, inside, rfl⟩)
        exact ⟨k, isText⟩
      · obtain ⟨k', isOption, same⟩ := known (.str k) (hasKey_str_iff.1 present)
        cases same
        simpa using isOption
  rw [issues, List.append_eq_nil_iff, List.append_eq_nil_iff, List.append_eq_nil_iff,
    strayIssues_eq_nil, issues_readOptional, issues_readOptional, issues_readLabeller, known]
  constructor
  · rintro ⟨⟨⟨keyField, labelField⟩, labeller⟩, known⟩
    exact ⟨known, keyField, labelField, labeller⟩
  · rintro ⟨known, keyField, labelField, labeller⟩
    exact ⟨⟨⟨keyField, labelField⟩, labeller⟩, known⟩

theorem exists_read_iff {v : Value} :
    (∃ o, read v = .ok o) ↔ (∃ o, v = .options o) ∨ ∃ es, v = .map es ∧ Accepts es := by
  cases v with
  | options o => exact ⟨fun _ => .inl ⟨o, rfl⟩, fun _ => ⟨o, rfl⟩⟩
  | map es =>
    simp only [read, readEntries, reduceCtorEq, exists_false, false_or, Value.map.injEq,
      exists_eq_left']
    rw [← issues_eq_nil]
    split
    next clean => exact ⟨fun _ => clean, fun _ => ⟨_, rfl⟩⟩
    next notEmpty => simpa using notEmpty
  | _ => simp [read, Reading.refuse]

theorem labeller_of_read {es : Entries} {o : Options} (accepted : read (.map es) = .ok o) :
    o.labeller = labellerOf es := by
  simp only [read, readEntries] at accepted
  split at accepted
  next clean =>
    cases accepted
    have texts := (issues_eq_nil.1 clean).labeller
    simp only [readLabeller, labellerOf]
    cases given : get? es "resolver" with
    | none => rfl
    | some v =>
      obtain ⟨name, rfl⟩ := texts v given
      rfl
  next => cases accepted

end Labels.Options

/-! ## Shapes -/

/-- The values that denote a flag: truth values, the numbers zero and one, and some words. -/
def Value.DenotesFlag : Value → Prop
  | .bool _ => True
  | .int n => n = 0 ∨ n = 1
  | .float x => x.integer? = some 0 ∨ x.integer? = some 1
  | .str s => ∃ w ∈ noWords ++ yesWords, w.toList = s.toList.map Char.toLower
  | _ => False

theorem Value.exists_readNumberFlag_iff {inWord : Bool} {n : Int} :
    (∃ b, readNumberFlag inWord n = .ok b) ↔ n = 0 ∨ n = 1 := by
  unfold readNumberFlag
  by_cases zero : n = 0
  · simp [zero]
  · by_cases one : n = 1
    · simp [one]
    · cases inWord <;> simp [zero, one, Reading.refuse]

theorem Value.exists_readFlag_iff {v : Value} : (∃ b, v.readFlag = .ok b) ↔ v.DenotesFlag := by
  cases v with
  | bool b => simp [readFlag, DenotesFlag]
  | int n => exact exists_readNumberFlag_iff
  | float x =>
    simp only [readFlag, DenotesFlag]
    cases x.integer? with
    | none => simp [Reading.refuse]
    | some n => simpa using exists_readNumberFlag_iff
  | str s =>
    have word (words : List String) :
        isWordOf words s = true ↔ ∃ w ∈ words, w.toList = s.toList.map Char.toLower := by
      simp [isWordOf]
    simp only [readFlag, DenotesFlag, List.mem_append, or_and_right, exists_or, ← word]
    split
    next no => simp [no]
    next notNo =>
      split
      next yes => simp [yes]
      next notYes => simp [notNo, notYes, Reading.refuse]
  | _ => simp [readFlag, DenotesFlag, Reading.refuse]

namespace Shape

/-- The values that can be given for a shape. -/
def Accepts : Shape → Value → Prop
  | .text, v => ∃ s, v = .str s
  | .flag, v => v.DenotesFlag
  | .anything, _ => True
  | .texts, v => ∃ items, (v = .list items ∨ v = .tuple items) ∧ ∀ item ∈ items, ∃ s, item = .str s
  | .mapping, v => ∃ es, v = .map es ∧ Textual es
  | .transform, v => ∃ t, v = .transform t
  | .options, v => (∃ o, v = .options o) ∨ ∃ es, v = .map es ∧ Labels.Options.Accepts es
  | .catalog, v => ∃ name, v = .catalog name

theorem exists_readTexts_iff_of_sequence {v : Value} {items : List Value}
    (isSequence : v.sequence? = some items) :
    (∃ texts, v.readTexts = .ok texts) ↔ ∀ item ∈ items, ∃ s, item = .str s := by
  rw [← @textIssues_eq_nil 0 items]
  simp only [Value.readTexts, isSequence]
  split
  next clean => exact ⟨fun _ => clean, fun _ => ⟨_, rfl⟩⟩
  next notEmpty => simpa using notEmpty

theorem exists_readTexts_iff {v : Value} :
    (∃ texts, v.readTexts = .ok texts) ↔ Accepts .texts v := by
  simp only [Accepts]
  cases v with
  | list items | tuple items =>
    rw [exists_readTexts_iff_of_sequence rfl]
    simp
  | options o =>
    -- the members of label options are pairs, and there are always some
    rw [exists_readTexts_iff_of_sequence rfl]
    simp [Value.optionEntries]
  | _ => simp [Value.readTexts, Value.sequence?, Value.elements?, Reading.refuse]

theorem exists_read_iff {shape : Shape} {v : Value} :
    (∃ w, shape.read v = .ok w) ↔ shape.Accepts v := by
  cases shape with
  | anything => exact ⟨fun _ => trivial, fun _ => ⟨v, rfl⟩⟩
  | flag => exact Outcome.exists_map_eq_ok.trans Value.exists_readFlag_iff
  | texts => exact Outcome.exists_map_eq_ok.trans exists_readTexts_iff
  | mapping =>
    refine Outcome.exists_map_eq_ok.trans ?_
    simp only [readMap_eq_ok, Accepts]
  | options => exact Outcome.exists_map_eq_ok.trans Labels.Options.exists_read_iff
  | text | transform | catalog =>
    refine Outcome.exists_map_eq_ok.trans ?_
    cases v <;>
      simp [Accepts, Value.readText, Value.readTransform, Value.readCatalog, Reading.refuse]

end Shape

/-! ## Settings -/

namespace Setting

/-- The values that can be given for a setting. -/
def Accepts (s : Setting) (v : Value) : Prop :=
  (s.optional = true ∧ v = .null) ∨ s.shape.Accepts v

theorem exists_readValue_iff {s : Setting} {v : Value} :
    (∃ w, s.readValue v = .ok w) ↔ s.Accepts v := by
  unfold readValue Accepts
  split
  next isNull =>
    rw [Bool.and_eq_true, Value.isNull_eq_true] at isNull
    exact ⟨fun _ => .inl isNull, fun _ => ⟨_, rfl⟩⟩
  next other =>
    rw [Bool.and_eq_true, Value.isNull_eq_true] at other
    rw [or_iff_right other, Shape.exists_read_iff]

theorem spelling?_of_alias {es : Entries} {s : Setting} {k : String} (aliased : s.alias? = some k)
    (given : hasKey es k = true) : s.spelling? es = some k := by
  rw [spelling?, spellings, aliased, Option.toList_some, List.singleton_append, List.find?_cons,
    given]

end Setting

/-! ## Configurations -/

namespace Config

/-- A configuration with a name, with values that can be given for their settings, and with known
keys, none of them in both spellings.  The name for keywords decides about the setting of single
criteria, so any value can be given for that one. -/
structure Valid (es : Entries) : Prop where
  named : hasKey es Setting.name.key = true
  accepted : ∀ (s : Setting) (k : String) (v : Value), k ∈ s.spellings → get? es (.str k) = some v →
    s.Accepts v ∨ s = .single ∧ get es Setting.name.key = .str keywordsName
  known : ∀ key ∈ keys es, key = .str valuesKey ∨ ∃ s : Setting, ∃ k ∈ s.spellings, key = .str k
  once : ∀ (s : Setting) (k : String), s.alias? = some k → hasKey es k = true →
    hasKey es s.key = false

theorem get?_markSingle_of_spelling {es : Entries} {s : Setting} {k : String}
    (spelled : k ∈ s.spellings)
    (free : ¬ (s = .single ∧ get es Setting.name.key = .str keywordsName)) :
    get? (markSingle es) (.str k) = get? es (.str k) := by
  by_cases isSingle : k = Setting.single.key
  · -- then the setting is the one for single criteria, and the name does not decide about it
    have same : s = .single :=
      Setting.eq_of_mem_spellings spelled (isSingle ▸ Setting.single.key_mem_spellings)
    rw [markSingle, if_neg fun keywords => free ⟨same, get_eq_of_get? keywords⟩]
  · exact get?_markSingle isSingle

theorem hasKey_markSingle {es : Entries} {k : String} (given : hasKey es k = true) :
    hasKey (markSingle es) k = true := by
  rw [← isSome_get?] at given ⊢
  unfold markSingle
  split
  · rw [get?_insert]
    split
    · rfl
    · exact given
  · exact given

/-- In a configuration whose keys are all known, every spelling that is given is the one used. -/
theorem spelling?_of_known {es : Entries}
    (known : ∀ k : String, hasKey es k = true → knows es k = true) {s : Setting} {k : String}
    (spelled : k ∈ s.spellings) (given : hasKey es k = true) : s.spelling? es = some k := by
  rcases knows_iff.1 (known k given) with rfl | ⟨s', used⟩
  · exact absurd spelled s.valuesKey_not_mem_spellings
  · rw [Setting.eq_of_mem_spellings spelled (Setting.spelling?_eq_some used).1, used]

theorem valid_of_issues_eq_nil {es : Entries} (clean : issues (markSingle es) = []) : Valid es := by
  obtain ⟨readable, textual, known⟩ := issues_eq_nil.1 clean
  -- no key is left over, so whatever is given for a setting is what was read for it
  have used {s : Setting} {k : String} (spelled : k ∈ s.spellings) (given : hasKey es k = true) :=
    spelling?_of_known known spelled (hasKey_markSingle given)
  refine ⟨?_, fun s k v spelled given => ?_, fun key member => ?_, fun s k aliased given => ?_⟩
  · obtain ⟨v, reads⟩ := readable .name
    cases spelling : Setting.name.spelling? (markSingle es) with
    | none =>
      rw [Setting.read_of_unused spelling] at reads
      cases reads
    | some k =>
      obtain ⟨spelled, present⟩ := Setting.spelling?_eq_some spelling
      rw [List.mem_singleton.1 spelled] at present
      rwa [← isSome_get?, get?_markSingle (by decide), isSome_get?] at present
  · by_cases decided : s = .single ∧ get es Setting.name.key = .str keywordsName
    · exact .inr decided
    · have present : hasKey es k = true := by rw [← isSome_get?, given]; rfl
      obtain ⟨w, reads⟩ := readable s
      rw [Setting.read_of_used (used spelled present),
        get_eq_of_get? ((get?_markSingle_of_spelling spelled decided).trans given)] at reads
      exact .inl (Setting.exists_readValue_iff.1 ⟨w, Setting.under_eq_ok.1 reads⟩)
  · obtain ⟨e, inside, rfl⟩ := List.mem_map.1 member
    obtain ⟨k, isText⟩ := textual_markSingle.1 textual e inside
    rw [isText] at member ⊢
    rcases knows_iff.1 (known k (hasKey_markSingle (hasKey_str_iff.2 member))) with
      rfl | ⟨s, spelling⟩
    · exact .inl rfl
    · exact .inr ⟨s, k, (Setting.spelling?_eq_some spelling).1, rfl⟩
  · rw [Bool.eq_false_iff]
    intro both
    have byAlias := used (Setting.mem_spellings_of_alias aliased) given
    have same := byAlias.symm.trans (used s.key_mem_spellings both)
    exact Setting.alias_ne_key aliased (Option.some.inj same)

theorem Valid.accepts_get_markSingle {es : Entries} (valid : Valid es) {s : Setting} {k : String}
    (spelled : k ∈ s.spellings) (given : hasKey (markSingle es) k = true) :
    s.Accepts (get (markSingle es) k) := by
  by_cases decided : s = .single ∧ get es Setting.name.key = .str keywordsName
  · obtain ⟨rfl, keywords⟩ := decided
    have isThere : get? es Setting.name.key = some (.str keywordsName) := by
      cases found : get? es (.str Setting.name.key) with
      | none => rw [Entries.get, found] at keywords; cases keywords
      | some v => rw [← keywords, get_eq_of_get? found]
    rw [List.mem_singleton.1 spelled, markSingle, if_pos isThere, get_insert_str]
    exact .inr trivial
  · have same := get?_markSingle_of_spelling spelled decided
    rw [← isSome_get?, same] at given
    obtain ⟨v, found⟩ := Option.isSome_iff_exists.1 given
    rw [get_eq_of_get? (same.trans found)]
    exact (valid.accepted s k v spelled found).resolve_right decided

/-- In a valid configuration every spelling that is given is the one used. -/
theorem Valid.spelling?_markSingle {es : Entries} (valid : Valid es) {s : Setting} {k : String}
    (spelled : k ∈ s.spellings) (given : hasKey es k = true) :
    s.spelling? (markSingle es) = some k := by
  rw [Setting.spellings, List.mem_append, Option.mem_toList, List.mem_singleton] at spelled
  rcases spelled with aliased | rfl
  · exact Setting.spelling?_of_alias aliased (hasKey_markSingle given)
  · rw [Setting.spelling?_of_no_alias, if_pos (hasKey_markSingle given)]
    intro k aliased
    -- were the alias given, the key could not be
    rw [← isSome_get?, get?_markSingle_of_spelling (Setting.mem_spellings_of_alias aliased),
      isSome_get?, Bool.eq_false_iff]
    · intro both
      rw [valid.once s k aliased both] at given
      cases given
    · rintro ⟨rfl, _⟩
      cases aliased

theorem issues_eq_nil_of_valid {es : Entries} (valid : Valid es) : issues (markSingle es) = [] := by
  have textual : Textual es := by
    intro e inside
    rcases valid.known e.1 (List.mem_map.2 ⟨e, inside, rfl⟩) with isValues | ⟨_, k, _, isText⟩
    · exact ⟨valuesKey, isValues⟩
    · exact ⟨k, isText⟩
  refine issues_eq_nil.2 ⟨fun s => ?_, textual_markSingle.2 textual, fun k present => ?_⟩
  · cases spelling : s.spelling? (markSingle es) with
    | none =>
      have free : s.required = false := by
        cases s with
        | name =>
          rw [valid.spelling?_markSingle Setting.name.key_mem_spellings valid.named] at spelling
          cases spelling
        | _ => rfl
      exact ⟨s.default, by rw [Setting.read_of_unused spelling, free]; rfl⟩
    | some k =>
      obtain ⟨spelled, present⟩ := Setting.spelling?_eq_some spelling
      have accepts := valid.accepts_get_markSingle spelled present
      obtain ⟨w, reads⟩ := Setting.exists_readValue_iff.2 accepts
      exact ⟨w, by rw [Setting.read_of_used spelling, reads]; rfl⟩
  · rw [knows_iff]
    by_cases isSingle : k = Setting.single.key
    · -- this key may have come in with the name for keywords
      refine .inr ⟨.single, ?_⟩
      rw [Setting.spelling?_of_no_alias (by simp [Setting.alias?]), ← isSingle, if_pos present]
    · rw [← isSome_get?, get?_markSingle isSingle, isSome_get?] at present
      rcases valid.known (.str k) (hasKey_str_iff.1 present) with isValues | ⟨s, _, spelled, same⟩
      · exact .inl (by simpa using isValues)
      · cases same
        exact .inr ⟨s, valid.spelling?_markSingle spelled present⟩

theorem issues_eq_nil_iff_valid {es : Entries} : issues (markSingle es) = [] ↔ Valid es :=
  ⟨valid_of_issues_eq_nil, issues_eq_nil_of_valid⟩

/-! ## Reading -/

theorem strayLabelKeys_markSingle (es : Entries) :
    strayLabelKeys (markSingle es) = strayLabelKeys es := by
  rw [strayLabelKeys, get_markSingle (by decide), strayLabelKeys]

theorem read_of_stray {es : Entries} (stray : strayLabelKeys es ≠ []) :
    read es = .error (.strayLabelOptions (strayLabelKeys es) Labels.optionKeys) := by
  rw [read, readEntries, strayLabelKeys_markSingle, if_pos stray]

theorem read_of_invalid {es : Entries} (noStray : strayLabelKeys es = []) (invalid : ¬ Valid es) :
    ∃ issues, issues ≠ [] ∧ read es = .error (.misfit .criterion issues) := by
  have faulty : issues (markSingle es) ≠ [] := by
    intro clean
    exact invalid (issues_eq_nil_iff_valid.1 clean)
  refine ⟨issues (markSingle es), faulty, ?_⟩
  rw [read, readEntries, strayLabelKeys_markSingle, if_neg (not_not_intro noStray)]
  split
  next clean => exact absurd clean faulty
  next => rfl

theorem read_of_valid {es : Entries} (noStray : strayLabelKeys es = []) (valid : Valid es) :
    ∃ c, read es = .ok c := by
  refine ⟨contents (markSingle es), ?_⟩
  rw [read, readEntries, strayLabelKeys_markSingle, if_neg (not_not_intro noStray),
    issues_eq_nil_iff_valid.2 valid]

/-- A configuration by keys that gives each setting a value it may hold, and gives a name. -/
theorem valid_of_holds {es : Entries}
    (keyed : ∀ key ∈ keys es, key = .str valuesKey ∨ ∃ s : Setting, key = .str s.key)
    (holds : ∀ (s : Setting) (v : Value), get? es (.str s.key) = some v → s.Holds v)
    (named : hasKey es Setting.name.key = true) : Valid es := by
  have isKey {s : Setting} {k : String} (spelled : k ∈ s.spellings) (given : hasKey es k = true) :
      k = s.key := by
    rcases keyed (.str k) (hasKey_str_iff.1 given) with isValues | ⟨s', isKey⟩
    · cases isValues
      exact absurd spelled s.valuesKey_not_mem_spellings
    · cases isKey
      rw [Setting.eq_of_mem_spellings spelled s'.key_mem_spellings]
  refine ⟨named, fun s k v spelled given => ?_, fun key member => ?_, fun s k aliased given => ?_⟩
  · have given' : hasKey es k = true := by rw [← isSome_get?, given]; rfl
    rw [isKey spelled given'] at given
    exact .inl (Setting.exists_readValue_iff.1 ⟨v, Setting.readValue_of_holds (holds s v given)⟩)
  · rcases keyed key member with isValues | ⟨s, rfl⟩
    · exact .inl isValues
    · exact .inr ⟨s, s.key, s.key_mem_spellings, rfl⟩
  · have same := isKey (Setting.mem_spellings_of_alias aliased) given
    exact absurd same (Setting.alias_ne_key aliased)

end Config

end Criteria
