import Criteria.Proofs.Config.Validity

/-! # Attributes of a configuration

What a configuration says, whichever spellings it uses.

* `Setting.given?` — the value that is given for a setting, under any of its spellings;
* `Config.SpelledAlike` — configurations without an attribute that they spell differently;
* `Config.WellKeyed` — a configuration with known keys, each attribute in one spelling;
* `Config.Sets` — what a setting is set to, the rule about the name for keywords included;
* `Config.Specifies` — a configuration from which a criterion can be read, attribute by attribute.

`Config.read_eq_ok_iff_specifies` says that a criterion is read from the configurations that specify
it.  So two configurations with the same attributes are read alike (`Specifies.transfer`).
-/

namespace Criteria

open Entries

theorem Entries.hasKey_overlay (base upper : Entries) (key : Value) :
    hasKey (overlay base upper) key = (hasKey base key || hasKey upper key) := by
  rw [← isSome_get?, get?_overlay, ← isSome_get?, ← isSome_get?]
  cases get? base key <;> cases get? upper key <;> rfl

theorem Entries.mem_keys_overlay {base upper : Entries} {key : Value}
    (member : key ∈ keys (overlay base upper)) : key ∈ keys base ∨ key ∈ keys upper := by
  rw [keys_overlay] at member
  exact (List.mem_append.1 member).imp_right fun added => (List.mem_filter.1 added).1

theorem Entries.mem_keys_overlay_left {base : Entries} {key : Value} (member : key ∈ keys base)
    (upper : Entries) : key ∈ keys (overlay base upper) := by
  rw [keys_overlay]
  exact List.mem_append_left _ member

/-! ## Given values -/

namespace Setting

/-- The value that a configuration gives for a setting, under the spelling that counts. -/
def given? (es : Entries) (s : Setting) : Option Value :=
  (s.spelling? es).map fun k => get es (.str k)

theorem given?_eq_none {es : Entries} {s : Setting} :
    s.given? es = none ↔ ∀ k ∈ s.spellings, get? es (.str k) = none := by
  rw [given?, Option.map_eq_none_iff, spelling?, List.find?_eq_none]
  refine forall₂_congr fun k _ => ?_
  rw [Bool.not_eq_true, get?_eq_none]

theorem given?_congr {es fs : Entries} {s : Setting}
    (agree : ∀ k ∈ s.spellings, get? es (.str k) = get? fs (.str k)) :
    s.given? es = s.given? fs := by
  unfold given?
  rw [spelling?_congr agree]
  cases used : s.spelling? fs with
  | none => rfl
  | some k => simp only [Option.map_some, Entries.get, agree k (spelling?_eq_some used).1]

/-- A setting with one spelling is given what stands at its key. -/
theorem given?_of_no_alias {es : Entries} {s : Setting} (plain : s.alias? = none) :
    s.given? es = get? es (.str s.key) := by
  have used : s.spelling? es = if hasKey es s.key then some s.key else none :=
    spelling?_of_no_alias (by simp [plain])
  rw [given?, used, ← isSome_get?]
  cases found : get? es (.str s.key) with
  | none => rfl
  | some v => exact congrArg some (get_eq_of_get? found)

theorem read_eq_ok_iff {es : Entries} {s : Setting} {w : Value} :
    s.read es = .ok w ↔
      match s.given? es with
      | some v => s.readValue v = .ok w
      | none => s.required = false ∧ w = s.default := by
  unfold read given?
  cases s.spelling? es with
  | some k => exact under_eq_ok
  | none =>
    simp only [Option.map_none]
    split
    next required => simp [required]
    next free =>
      rw [Bool.not_eq_true] at free
      simp [free, eq_comm]

end Setting

/-! ## Spellings in use -/

namespace Config

/-- Two configurations in which no attribute is given under one spelling here and under the other
one there. -/
def SpelledAlike (es fs : Entries) : Prop :=
  ∀ s : Setting, ∀ k ∈ s.spellings, ∀ k' ∈ s.spellings,
    hasKey es (.str k) = true → hasKey fs (.str k') = true → k = k'

/-- A configuration with known keys and with each attribute in one spelling. -/
structure WellKeyed (es : Entries) : Prop where
  known : ∀ key ∈ keys es, key = .str valuesKey ∨ ∃ s : Setting, ∃ k ∈ s.spellings, key = .str k
  once : SpelledAlike es es

theorem spelling?_of_once {es : Entries} (once : SpelledAlike es es) {s : Setting} {k : String}
    (spelled : k ∈ s.spellings) (present : hasKey es (.str k) = true) :
    s.spelling? es = some k := by
  cases used : s.spelling? es with
  | none => exact absurd present (by simpa using List.find?_eq_none.1 used k spelled)
  | some k' =>
    obtain ⟨spelled', present'⟩ := Setting.spelling?_eq_some used
    rw [once s k' spelled' k spelled present' present]

instance (es fs : Entries) : Decidable (SpelledAlike es fs) :=
  decidable_of_iff (∀ s ∈ Setting.all, ∀ k ∈ s.spellings, ∀ k' ∈ s.spellings,
    hasKey es (.str k) = true → hasKey fs (.str k') = true → k = k')
    ⟨fun alike s => alike s s.mem_all, fun alike s _ => alike s⟩

instance (es : Entries) : Decidable (WellKeyed es) :=
  decidable_of_iff ((∀ key ∈ keys es, key = .str valuesKey ∨
      ∃ s ∈ Setting.all, ∃ k ∈ s.spellings, key = .str k) ∧ SpelledAlike es es)
    ⟨fun ⟨known, once⟩ => ⟨fun key member => (known key member).imp_right
        fun ⟨s, _, spelled⟩ => ⟨s, spelled⟩, once⟩,
      fun ⟨known, once⟩ => ⟨fun key member => (known key member).imp_right
        fun ⟨s, spelled⟩ => ⟨s, s.mem_all, spelled⟩, once⟩⟩

/-- What is given for a setting is found under any of its spellings that is in use. -/
theorem given?_eq_some {es : Entries} (once : SpelledAlike es es) {s : Setting} {v : Value} :
    s.given? es = some v ↔ ∃ k ∈ s.spellings, get? es (.str k) = some v := by
  constructor
  · intro given
    obtain ⟨k, used, isValue⟩ := Option.map_eq_some_iff.1 given
    obtain ⟨spelled, present⟩ := Setting.spelling?_eq_some used
    rw [← isSome_get?] at present
    obtain ⟨v', found⟩ := Option.isSome_iff_exists.1 present
    exact ⟨k, spelled, by rw [found, ← isValue, get_eq_of_get? found]⟩
  · rintro ⟨k, spelled, found⟩
    have present : hasKey es (.str k) = true := by rw [← isSome_get?, found]; rfl
    rw [Setting.given?, spelling?_of_once once spelled present, Option.map_some,
      get_eq_of_get? found]

/-- The configurations without a key that is left over are the well-keyed ones. -/
theorem wellKeyed_iff {es : Entries} :
    WellKeyed es ↔ Textual es ∧ ∀ k : String, hasKey es (.str k) = true → knows es k = true := by
  constructor
  · intro wellKeyed
    refine ⟨fun e inside => ?_, fun k present => ?_⟩
    · rcases wellKeyed.known e.1 (List.mem_map.2 ⟨e, inside, rfl⟩) with isValues | ⟨_, k, _, isText⟩
      · exact ⟨valuesKey, isValues⟩
      · exact ⟨k, isText⟩
    · rcases wellKeyed.known (.str k) (hasKey_str_iff.1 present)
        with isValues | ⟨s, _, spelled, same⟩
      · exact knows_iff.2 (.inl (by simpa using isValues))
      · cases same
        exact knows_iff.2 (.inr ⟨s, spelling?_of_once wellKeyed.once spelled present⟩)
  · rintro ⟨textual, known⟩
    refine ⟨fun key member => ?_, fun s k spelled k' spelled' present present' => ?_⟩
    · obtain ⟨e, inside, rfl⟩ := List.mem_map.1 member
      obtain ⟨k, isText⟩ := textual e inside
      rw [isText] at member ⊢
      rcases knows_iff.1 (known k (hasKey_str_iff.2 member)) with rfl | ⟨s, used⟩
      · exact .inl rfl
      · exact .inr ⟨s, k, (Setting.spelling?_eq_some used).1, rfl⟩
    · have used := spelling?_of_known known spelled present
      exact Option.some.inj (used.symm.trans (spelling?_of_known known spelled' present'))

theorem WellKeyed.hasKey_of_unknown {es : Entries} (wellKeyed : WellKeyed es) {k : String}
    (notValues : k ≠ valuesKey) (unknown : Setting.ofSpelling? k = none) :
    hasKey es (.str k) = false := by
  rw [Bool.eq_false_iff]
  intro present
  rcases wellKeyed.known (.str k) (hasKey_str_iff.1 present) with isValues | ⟨s, _, spelled, same⟩
  · exact notValues (by simpa using isValues)
  · cases same
    rw [Setting.ofSpelling?_of_mem spelled] at unknown
    cases unknown

/-! ## Keys with one spelling -/

/-- Entries at keys that have no other spelling. -/
def PlainlyKeyed (es : Entries) : Prop :=
  ∀ s : Setting, s.alias? ≠ none → ∀ k ∈ s.spellings, hasKey es (.str k) = false

theorem plainlyKeyed_key {s : Setting} (plain : s.alias? = none) (v : Value) :
    PlainlyKeyed [(.str s.key, v)] := by
  intro s' aliased k spelled
  have differ : s.key ≠ k := by
    rintro rfl
    exact aliased (Setting.eq_of_mem_spellings spelled s.key_mem_spellings ▸ plain)
  simp [hasKey, differ]

theorem plainlyKeyed_values (v : Value) : PlainlyKeyed [(.str valuesKey, v)] := by
  intro s _ k spelled
  have differ : valuesKey ≠ k := by
    rintro rfl
    exact s.valuesKey_not_mem_spellings spelled
  simp [hasKey, differ]

theorem SpelledAlike.symm {es fs : Entries} (alike : SpelledAlike es fs) : SpelledAlike fs es :=
  fun s k spelled k' spelled' present present' =>
    (alike s k' spelled' k spelled present' present).symm

theorem PlainlyKeyed.spelledAlike {es : Entries} (plain : PlainlyKeyed es) (fs : Entries) :
    SpelledAlike es fs := by
  intro s k spelled k' spelled' present _
  cases aliased : s.alias? with
  | none =>
    rw [Setting.spellings, aliased] at spelled spelled'
    exact (List.mem_singleton.1 spelled).trans (List.mem_singleton.1 spelled').symm
  | some a =>
    rw [plain s (by simp [aliased]) k spelled] at present
    cases present

theorem spelledAlike_overlay {base upper : Entries} :
    SpelledAlike (overlay base upper) (overlay base upper) ↔
      SpelledAlike base base ∧ SpelledAlike upper upper ∧ SpelledAlike upper base := by
  constructor
  · intro once
    refine ⟨fun s k spelled k' spelled' present present' => ?_,
      fun s k spelled k' spelled' present present' => ?_,
      fun s k spelled k' spelled' present present' => ?_⟩
    all_goals
      refine once s k spelled k' spelled' ?_ ?_
      all_goals simp [hasKey_overlay, present, present']
  · rintro ⟨inBase, inUpper, between⟩ s k spelled k' spelled' present present'
    rw [hasKey_overlay, Bool.or_eq_true] at present present'
    rcases present with lower | above <;> rcases present' with lower' | above'
    · exact inBase s k spelled k' spelled' lower lower'
    · exact between.symm s k spelled k' spelled' lower above'
    · exact between s k spelled k' spelled' above lower'
    · exact inUpper s k spelled k' spelled' above above'

theorem spelledAlike_insert {es : Entries} {key v : Value} (plain : PlainlyKeyed [(key, v)]) :
    SpelledAlike (insert es key v) (insert es key v) ↔ SpelledAlike es es := by
  rw [Entries.insert, spelledAlike_overlay]
  exact ⟨And.left, fun once => ⟨once, plain.spelledAlike _, plain.spelledAlike _⟩⟩

theorem wellKeyed_overlay {base upper : Entries} (lower : WellKeyed base) (above : WellKeyed upper)
    (alike : SpelledAlike upper base) : WellKeyed (overlay base upper) where
  known key member := (mem_keys_overlay member).elim (lower.known key) (above.known key)
  once := spelledAlike_overlay.2 ⟨lower.once, above.once, alike⟩

theorem wellKeyed_insert_key {es : Entries} {s : Setting} (plain : s.alias? = none) {v : Value} :
    WellKeyed (insert es s.key v) ↔ WellKeyed es := by
  have once := @spelledAlike_insert es _ v (plainlyKeyed_key plain v)
  constructor
  · intro wellKeyed
    exact ⟨fun key member => wellKeyed.known key (mem_keys_overlay_left member _),
      once.1 wellKeyed.once⟩
  · intro wellKeyed
    refine ⟨fun key member => ?_, once.2 wellKeyed.once⟩
    rcases mem_keys_insert member with inside | isKey
    · exact wellKeyed.known key inside
    · exact .inr ⟨s, s.key, s.key_mem_spellings, isKey⟩

/-! ## Laying over -/

/-- The attributes of entries laid over others are the upper ones, or else those underneath. -/
theorem given?_overlay {base upper : Entries}
    (once : SpelledAlike (overlay base upper) (overlay base upper)) (s : Setting) :
    s.given? (overlay base upper) = (s.given? upper).or (s.given? base) := by
  obtain ⟨lower, above, alike⟩ := spelledAlike_overlay.1 once
  ext v
  rw [given?_eq_some once, Option.or_eq_some_iff, given?_eq_some above, given?_eq_some lower,
    Setting.given?_eq_none]
  constructor
  · rintro ⟨k, spelled, found⟩
    rw [get?_overlay, Option.or_eq_some_iff] at found
    rcases found with isUpper | ⟨noUpper, isLower⟩
    · exact .inl ⟨k, spelled, isUpper⟩
    · -- what is given underneath under one spelling is not given above under another
      refine .inr ⟨fun k' spelled' => ?_, k, spelled, isLower⟩
      cases found : get? upper (.str k') with
      | none => rfl
      | some v' =>
        have present : hasKey base (.str k) = true := by rw [← isSome_get?, isLower]; rfl
        have present' : hasKey upper (.str k') = true := by rw [← isSome_get?, found]; rfl
        rw [alike s k' spelled' k spelled present' present, noUpper] at found
        cases found
  · rintro (⟨k, spelled, isUpper⟩ | ⟨noUpper, k, spelled, isLower⟩)
    · exact ⟨k, spelled, by rw [get?_overlay, isUpper]; rfl⟩
    · exact ⟨k, spelled, by rw [get?_overlay, noUpper k spelled, isLower]; rfl⟩

/-- A setting with one spelling needs no such care. -/
theorem given?_overlay_of_no_alias {s : Setting} (plain : s.alias? = none) (base upper : Entries) :
    s.given? (overlay base upper) = (s.given? upper).or (s.given? base) := by
  simp only [Setting.given?_of_no_alias plain, get?_overlay]

theorem given?_insert_name (es : Entries) (name : Value) (s : Setting) :
    s.given? (insert es Setting.name.key name) = if s = .name then some name else s.given? es := by
  split
  next same => rw [same, Setting.given?_of_no_alias rfl, get?_insert_str]
  next other =>
    refine Setting.given?_congr fun k spelled => get?_insert_of_ne name ?_
    rintro rfl
    exact other (Setting.eq_of_mem_spellings spelled Setting.name.key_mem_spellings)

/-! ## The name for keywords -/

theorem wellKeyed_markSingle {es : Entries} : WellKeyed (markSingle es) ↔ WellKeyed es := by
  unfold markSingle
  split
  · exact wellKeyed_insert_key rfl
  · exact Iff.rfl

theorem Valid.wellKeyed {es : Entries} (valid : Valid es) : WellKeyed es := by
  obtain ⟨_, textual, known⟩ := issues_eq_nil.1 (issues_eq_nil_of_valid valid)
  exact wellKeyed_markSingle.1 (wellKeyed_iff.2 ⟨textual, known⟩)

theorem given?_markSingle (es : Entries) (s : Setting) :
    s.given? (markSingle es) =
      if s = .single ∧ get es Setting.name.key = .str keywordsName then some (.bool true)
      else s.given? es := by
  split
  next decided =>
    obtain ⟨rfl, keywords⟩ := decided
    have isThere : get? es Setting.name.key = some (.str keywordsName) := by
      cases found : get? es (.str Setting.name.key) with
      | none => rw [Entries.get, found] at keywords; cases keywords
      | some v => rw [← keywords, get_eq_of_get? found]
    rw [Setting.given?_of_no_alias rfl, markSingle, if_pos isThere, get?_insert_str]
  next free => exact Setting.given?_congr fun k spelled => get?_markSingle_of_spelling spelled free

/-! ## What a configuration specifies -/

/-- What a configuration sets a setting to: what is read from the value that is given for it, and
its default when none is given.  The name for keywords decides that a criterion is single. -/
def Sets (es : Entries) (s : Setting) (w : Value) : Prop :=
  if s = .single ∧ get es Setting.name.key = .str keywordsName then w = .bool true
  else match s.given? es with
    | some v => s.readValue v = .ok w
    | none => s.required = false ∧ w = s.default

theorem read_markSingle_eq_ok_iff {es : Entries} {s : Setting} {w : Value} :
    s.read (markSingle es) = .ok w ↔ Sets es s w := by
  rw [Setting.read_eq_ok_iff, given?_markSingle, Sets]
  by_cases decided : s = .single ∧ get es Setting.name.key = .str keywordsName
  · rw [if_pos decided, if_pos decided, decided.1]
    constructor
    · intro reads
      exact (Except.ok.inj reads).symm
    · rintro rfl
      rfl
  · rw [if_neg decided, if_neg decided]

/-- A configuration that specifies a criterion: nothing is left over, and each attribute of the
criterion is what the configuration sets it to. -/
structure Specifies (es : Entries) (c : Criterion) : Prop where
  wellKeyed : WellKeyed es
  labels : strayLabelKeys es = []
  values : c.values = (get es valuesKey).items
  sets : ∀ s : Setting, Sets es s (c.setting s)

theorem read_eq_ok_iff_specifies {es : Entries} {c : Criterion} :
    read es = .ok c ↔ Specifies es c := by
  have values : get (markSingle es) valuesKey = get es valuesKey :=
    get_markSingle (by decide)
  rw [read_eq_ok]
  constructor
  · intro describes
    exact ⟨wellKeyed_markSingle.1 (wellKeyed_iff.2 ⟨describes.textual, describes.known⟩),
      (strayLabelKeys_markSingle es).symm.trans describes.labels,
      values ▸ describes.values,
      fun s => read_markSingle_eq_ok_iff.1 (describes.settings s)⟩
  · intro specifies
    obtain ⟨textual, known⟩ := wellKeyed_iff.1 (wellKeyed_markSingle.2 specifies.wellKeyed)
    exact ⟨textual, known, (strayLabelKeys_markSingle es).trans specifies.labels,
      values.symm ▸ specifies.values, fun s => read_markSingle_eq_ok_iff.2 (specifies.sets s)⟩

theorem get_eq_given? {es : Entries} {s : Setting} (plain : s.alias? = none) :
    get es (.str s.key) = (s.given? es).getD .null := by
  rw [Setting.given?_of_no_alias plain, Entries.get]

/-- Configurations that give the same attributes specify the same criterion. -/
theorem Specifies.transfer {es fs : Entries} {c : Criterion} (specifies : Specifies es c)
    (wellKeyed : WellKeyed fs) (values : get es valuesKey = get fs valuesKey)
    (given : ∀ s : Setting, s.given? es = s.given? fs) : Specifies fs c where
  wellKeyed := wellKeyed
  labels := by
    rw [strayLabelKeys, get_eq_given? rfl, ← given, ← get_eq_given? rfl]
    exact specifies.labels
  values := by rw [← values, specifies.values]
  sets s := by
    have name : get fs Setting.name.key = get es Setting.name.key := by
      rw [get_eq_given? rfl, get_eq_given? rfl, given]
    rw [Sets, name, ← given]
    exact specifies.sets s

end Config

end Criteria
