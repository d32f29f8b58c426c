import Criteria.Proofs.Config.Attributes

/-! # Configurations in other spellings

What becomes of a configuration when some of its attributes are given under their other spelling, at
the top and in the override configurations inside it.

* `Config.respell` — a configuration with other spellings, level by level;
* `Criterion.respell` — a criterion with other spellings in the configuration of its override;
* `Fault.unplaced` — a fault without the places of its issues, which name keys as they are spelled.

A key is renamed by an involution that respects sameness of keys, so a lookup, an overlay and each
reader commute with it.  `Config.read_respell` says that a respelled configuration describes the
same criterion, or is faulty for the same reasons, if no attribute is given in both spellings.
-/

namespace Criteria

open Entries

/-! ## The other spelling -/

namespace Setting

/-- The other spelling of a setting, if it has two. -/
def otherSpelling (s : Setting) (k : String) : String :=
  match s.alias? with
  | some a => if k = a then s.key else a
  | none => k

theorem mem_spellings {s : Setting} {k : String} :
    k ∈ s.spellings ↔ s.alias? = some k ∨ k = s.key := by
  rw [spellings, List.mem_append, Option.mem_toList, List.mem_singleton]

theorem otherSpelling_mem {s : Setting} {k : String} (spelled : k ∈ s.spellings) :
    s.otherSpelling k ∈ s.spellings := by
  unfold otherSpelling
  split
  next a aliased =>
    split
    · exact s.key_mem_spellings
    · exact mem_spellings_of_alias aliased
  next => exact spelled

theorem otherSpelling_otherSpelling {s : Setting} {k : String} (spelled : k ∈ s.spellings) :
    s.otherSpelling (s.otherSpelling k) = k := by
  cases aliased : s.alias? with
  | none => simp only [otherSpelling, aliased]
  | some a =>
    simp only [otherSpelling, aliased]
    rcases mem_spellings.1 spelled with isAlias | rfl
    · cases aliased.symm.trans isAlias
      rw [if_pos rfl, if_neg (alias_ne_key aliased).symm]
    · rw [if_neg (alias_ne_key aliased).symm, if_pos rfl]

theorem mem_of_ofSpelling? {s : Setting} {k : String} (spells : ofSpelling? k = some s) :
    k ∈ s.spellings := by
  simpa using List.find?_some spells

end Setting

namespace Config

/-- A text in the other spelling if it spells one of the settings that are chosen. -/
def respellName (chosen : List Setting) (k : String) : String :=
  match Setting.ofSpelling? k with
  | some s => if s ∈ chosen then s.otherSpelling k else k
  | none => k

/-- A key in the other spelling if it spells one of the settings that are chosen. -/
def respellKey (chosen : List Setting) : Value → Value
  | .str k => .str (respellName chosen k)
  | v => v

section

variable (chosen : List Setting)

theorem respellName_of_mem {s : Setting} {k : String} (spelled : k ∈ s.spellings) :
    respellName chosen k = if s ∈ chosen then s.otherSpelling k else k := by
  rw [respellName, Setting.ofSpelling?_of_mem spelled]

theorem respellName_mem {s : Setting} {k : String} (spelled : k ∈ s.spellings) :
    respellName chosen k ∈ s.spellings := by
  rw [respellName_of_mem chosen spelled]
  split
  · exact Setting.otherSpelling_mem spelled
  · exact spelled

theorem respellName_of_unspelled {k : String} (unspelled : Setting.ofSpelling? k = none) :
    respellName chosen k = k := by
  rw [respellName, unspelled]

theorem respellName_respellName (k : String) : respellName chosen (respellName chosen k) = k := by
  cases spells : Setting.ofSpelling? k with
  | none => rw [respellName_of_unspelled chosen spells, respellName_of_unspelled chosen spells]
  | some s =>
    have spelled := Setting.mem_of_ofSpelling? spells
    rw [respellName_of_mem chosen (respellName_mem chosen spelled),
      respellName_of_mem chosen spelled]
    split
    · exact Setting.otherSpelling_otherSpelling spelled
    · rfl

theorem respellName_inj {k k' : String} :
    respellName chosen k = respellName chosen k' ↔ k = k' :=
  ⟨fun same => by rw [← respellName_respellName chosen k, same, respellName_respellName],
    congrArg _⟩

theorem respellName_key {s : Setting} (plain : s.alias? = none) :
    respellName chosen s.key = s.key := by
  rw [respellName_of_mem chosen s.key_mem_spellings, Setting.otherSpelling, plain, ite_self]

theorem respellName_valuesKey : respellName chosen valuesKey = valuesKey :=
  respellName_of_unspelled chosen (by decide +kernel)

theorem keyText?_respellKey (key : Value) :
    (respellKey chosen key).keyText? = key.keyText?.map (respellName chosen) := by
  cases key <;> rfl

/-- Renamed keys are the same when the keys are. -/
theorem sameKey_respellKey (a b : Value) :
    (respellKey chosen a).sameKey (respellKey chosen b) = a.sameKey b := by
  -- a text is the same as that text alone, so it is enough to compare texts
  have text (a : Value) (k : String) :
      (respellKey chosen a).sameKey (.str (respellName chosen k)) = a.sameKey (.str k) := by
    cases a with
    | str k' => simp only [respellKey, Value.sameKey_str, respellName_inj]
    | _ =>
      rw [Bool.eq_iff_iff, Value.sameKey_str_iff, Value.sameKey_str_iff]
      simp [respellKey]
  cases b with
  | str k => exact text a k
  | _ =>
    cases a with
    | str k =>
      rw [Value.sameKey_comm, Value.sameKey_comm (.str k)]
      exact text _ k
    | _ => rfl

end

/-! ## The other spellings of a configuration -/

/-- A configuration in the other spellings of some settings: those that come first are respelled at
the top, the following ones in the configuration of the override, and so on. -/
def respell : List (List Setting) → Entries → Entries
  | [], es => es
  | chosen :: deeper, es => es.map fun e =>
    (respellKey chosen e.1,
      match e.2 with
      | .map spec =>
        .map (if e.1 = .str Setting.override.key then respell deeper spec else spec)
      | v => v)

/-- An override setting in other spellings. -/
def respellSpec (levels : List (List Setting)) : Value → Value
  | .map spec => .map (respell levels spec)
  | v => v

/-- What a configuration holds at a key, in other spellings if that is the override. -/
def respellAt (levels : List (List Setting)) (key v : Value) : Value :=
  if key = .str Setting.override.key then respellSpec levels v else v

theorem respellSpec_nil (v : Value) : respellSpec [] v = v := by
  cases v <;> rfl

theorem respellAt_of_sameKey {a b : Value} (same : a.sameKey b = true)
    (levels : List (List Setting)) (v : Value) : respellAt levels a v = respellAt levels b v := by
  have isOverride : a = .str Setting.override.key ↔ b = .str Setting.override.key := by
    rw [← Value.sameKey_str_iff, Value.sameKey_congr same, Value.sameKey_str_iff]
  simp only [respellAt, isOverride]

/-- At a spelling of a setting the override configuration is respelled and nothing else. -/
theorem respellAt_of_mem {s : Setting} {k : String} (spelled : k ∈ s.spellings)
    (levels : List (List Setting)) (v : Value) :
    respellAt levels (.str k) v = if s = .override then respellSpec levels v else v := by
  have isOverride : (.str k : Value) = .str Setting.override.key ↔ s = .override := by
    rw [Value.str.injEq]
    constructor
    · rintro rfl
      exact Setting.eq_of_mem_spellings spelled Setting.override.key_mem_spellings
    · rintro rfl
      exact List.mem_singleton.1 spelled
  simp only [respellAt, isOverride]

section

variable (levels : List (List Setting))

theorem respell_eq (es : Entries) :
    respell levels es =
      es.map fun e => (respellKey (levels.headD []) e.1, respellAt levels.tail e.1 e.2) := by
  cases levels with
  | nil =>
    have same (e : Value × Value) : (respellKey [] e.1, respellAt [] e.1 e.2) = e := by
      obtain ⟨key, v⟩ := e
      refine Prod.ext ?_ (by simp only [respellAt, respellSpec_nil, ite_self])
      cases key with
      | str k =>
        simp only [respellKey, respellName, List.not_mem_nil, if_false]
        cases Setting.ofSpelling? k <;> rfl
      | _ => rfl
    rw [respell, List.headD_nil, List.tail_nil, funext same, List.map_id']
  | cons chosen deeper =>
    rw [respell]
    refine List.map_congr_left fun e _ => Prod.ext rfl ?_
    simp only [List.tail_cons, respellAt]
    cases e.2 <;> simp only [respellSpec, ite_self]
    split <;> rfl

theorem get?_respell (es : Entries) (key : Value) :
    get? (respell levels es) (respellKey (levels.headD []) key)
      = (get? es key).map (respellAt levels.tail key) := by
  rw [respell_eq]
  induction es with
  | nil => rfl
  | cons e es inductionHypothesis =>
    rw [List.map_cons, get?_cons, get?_cons, sameKey_respellKey, inductionHypothesis]
    split
    next same => rw [respellAt_of_sameKey same, Option.map_some]
    next => rfl

theorem hasKey_respell (es : Entries) (key : Value) :
    hasKey (respell levels es) (respellKey (levels.headD []) key) = hasKey es key := by
  rw [← isSome_get?, get?_respell, Option.isSome_map, isSome_get?]

theorem respell_overlay (base upper : Entries) :
    respell levels (overlay base upper)
      = overlay (respell levels base) (respell levels upper) := by
  have lower (e : Value × Value) :
      (get? (respell levels upper) (respellKey (levels.headD []) e.1)).getD
          (respellAt levels.tail e.1 e.2)
        = respellAt levels.tail e.1 ((get? upper e.1).getD e.2) := by
    rw [get?_respell]
    cases get? upper e.1 <;> rfl
  rw [respell_eq levels (overlay base upper), overlay, overlay, List.map_append]
  congr 1
  · conv_rhs => rw [respell_eq levels base]
    rw [List.map_map, List.map_map]
    exact List.map_congr_left fun e _ => Prod.ext rfl (lower e).symm
  · conv_rhs => rw [respell_eq levels upper]
    rw [List.filter_map]
    refine congrArg _ (List.filter_congr fun e _ => ?_)
    rw [Function.comp_apply, hasKey_respell]

/-- Entries whose keys have no other spelling are left as they are, if the override is not among
them. -/
theorem respell_of_plain {es : Entries}
    (plain : ∀ e ∈ es, e.1 = .str valuesKey ∨
      ∃ s : Setting, s.alias? = none ∧ s ≠ .override ∧ e.1 = .str s.key) :
    respell levels es = es := by
  rw [respell_eq]
  refine (List.map_congr_left fun e inside => ?_).trans (List.map_id' es)
  refine Prod.ext ?_ ?_
  · rcases plain e inside with isValues | ⟨s, single, _, isKey⟩
    · rw [isValues, respellKey, respellName_valuesKey]
    · rw [isKey, respellKey, respellName_key _ single]
  · rcases plain e inside with isValues | ⟨s, _, other, isKey⟩
    · rw [isValues]
      rfl
    · rw [isKey, respellAt_of_mem s.key_mem_spellings, if_neg other]

theorem respell_insert_key {s : Setting} (single : s.alias? = none) (other : s ≠ .override)
    (es : Entries) (v : Value) :
    respell levels (insert es s.key v) = insert (respell levels es) s.key v := by
  rw [Entries.insert, respell_overlay, Entries.insert]
  congr 1
  refine respell_of_plain levels fun e inside => .inr ⟨s, single, other, ?_⟩
  rw [List.mem_singleton.1 inside]

theorem respell_insert_values (es : Entries) (v : Value) :
    respell levels (insert es valuesKey v) = insert (respell levels es) valuesKey v := by
  rw [Entries.insert, respell_overlay, Entries.insert]
  congr 1
  refine respell_of_plain levels fun e inside => .inl ?_
  rw [List.mem_singleton.1 inside]

/-! ## What is found in a respelled configuration -/

theorem get?_respell_key {s : Setting} (single : s.alias? = none) (other : s ≠ .override)
    (es : Entries) : get? (respell levels es) (.str s.key) = get? es (.str s.key) := by
  have found := get?_respell levels es (.str s.key)
  rw [respellKey, respellName_key _ single] at found
  rw [found]
  cases get? es (.str s.key) with
  | none => rfl
  | some v => rw [Option.map_some, respellAt_of_mem s.key_mem_spellings, if_neg other]

theorem get_respell_key {s : Setting} (single : s.alias? = none) (other : s ≠ .override)
    (es : Entries) : get (respell levels es) (.str s.key) = get es (.str s.key) := by
  rw [Entries.get, get?_respell_key levels single other, Entries.get]

theorem get_respell_values (es : Entries) :
    get (respell levels es) valuesKey = get es valuesKey := by
  have found := get?_respell levels es (.str valuesKey)
  rw [respellKey, respellName_valuesKey] at found
  rw [Entries.get, found, Entries.get]
  cases get? es (.str valuesKey) <;> rfl

theorem markSingle_respell (es : Entries) :
    markSingle (respell levels es) = respell levels (markSingle es) := by
  unfold markSingle
  rw [get?_respell_key (s := .name) levels rfl (by decide)]
  split
  · exact (respell_insert_key (s := .single) levels rfl (by decide) es _).symm
  · rfl

theorem strayLabelKeys_respell (es : Entries) :
    strayLabelKeys (respell levels es) = strayLabelKeys es := by
  rw [strayLabelKeys, get_respell_key (s := .labels) levels rfl (by decide), strayLabelKeys]

/-! ## Keys of a respelled configuration -/

theorem spelledAlike_respell {es : Entries} (once : SpelledAlike es es) :
    SpelledAlike (respell levels es) (respell levels es) := by
  have present (k : String) : hasKey (respell levels es) (.str k)
      = hasKey es (.str (respellName (levels.headD []) k)) := by
    have found := hasKey_respell levels es (.str (respellName (levels.headD []) k))
    rwa [respellKey, respellName_respellName] at found
  intro s k spelled k' spelled' given given'
  rw [present] at given given'
  exact (respellName_inj _).1 (once s _ (respellName_mem _ spelled) _ (respellName_mem _ spelled')
    given given')

theorem spelling?_respell {es : Entries} (once : SpelledAlike es es) (s : Setting) :
    s.spelling? (respell levels es)
      = (s.spelling? es).map (respellName (levels.headD [])) := by
  cases used : s.spelling? es with
  | some k =>
    obtain ⟨spelled, given⟩ := Setting.spelling?_eq_some used
    rw [← hasKey_respell levels] at given
    exact spelling?_of_once (spelledAlike_respell levels once) (respellName_mem _ spelled) given
  | none =>
    rw [Setting.spelling?, List.find?_eq_none] at used
    rw [Option.map_none, Setting.spelling?, List.find?_eq_none]
    intro k spelled
    rw [← respellName_respellName (levels.headD []) k]
    have found := hasKey_respell levels es (.str (respellName (levels.headD []) k))
    rw [respellKey] at found
    rw [found]
    exact used _ (respellName_mem _ spelled)

theorem knows_respell {es : Entries} (once : SpelledAlike es es) (k : String) :
    knows (respell levels es) (respellName (levels.headD []) k) = knows es k := by
  have isValues : respellName (levels.headD []) k = valuesKey ↔ k = valuesKey := by
    rw [← respellName_inj (levels.headD []), respellName_respellName, respellName_valuesKey]
  have isUsed (s : Setting) :
      s.spelling? (respell levels es) = some (respellName (levels.headD []) k)
        ↔ s.spelling? es = some k := by
    rw [spelling?_respell levels once, Option.map_eq_some_iff]
    simp only [respellName_inj, exists_eq_right]
  rw [Bool.eq_iff_iff, knows_iff, knows_iff]
  simp only [isValues, isUsed]

/-- Keys that are not known have no spelling to change. -/
theorem respellName_of_not_known {es : Entries} (once : SpelledAlike es es) {k : String}
    (present : hasKey es (.str k) = true) (unknown : knows es k = false) :
    respellName (levels.headD []) k = k := by
  cases spells : Setting.ofSpelling? k with
  | none => exact respellName_of_unspelled _ spells
  | some s =>
    have used := spelling?_of_once once (Setting.mem_of_ofSpelling? spells) present
    rw [knows_iff.2 (.inr ⟨s, used⟩)] at unknown
    cases unknown

theorem map_filter_keyText?_respell {α : Type} (f : Value → α) (es : Entries) :
    ((respell levels es).filter fun e => e.1.keyText?.isNone).map (fun e => f e.1)
      = (es.filter fun e => e.1.keyText?.isNone).map (fun e => f e.1) := by
  rw [respell_eq, List.filter_map, List.map_map]
  simp only [Function.comp_def, keyText?_respellKey, Option.isNone_map]
  refine List.map_congr_left fun e inside => ?_
  have notText := (List.mem_filter.1 inside).2
  obtain ⟨key, v⟩ := e
  cases key with
  | str k => cases notText
  | _ => rfl

theorem keyIssues_respell (es : Entries) :
    Value.keyIssues (respell levels es) = Value.keyIssues es :=
  map_filter_keyText?_respell levels (fun key => Issue.mk .notText [key.place, .key "[key]"]) es

theorem textKeys_respell (es : Entries) :
    textKeys (respell levels es) = (textKeys es).map (respellName (levels.headD [])) := by
  rw [textKeys, textKeys, respell_eq, List.filterMap_map, List.map_filterMap]
  simp only [Function.comp_def, keyText?_respellKey]

/-- The keys that nothing reads are the same ones. -/
theorem strayIssues_respell {es : Entries} (once : SpelledAlike es es) :
    strayIssues (knows (respell levels es)) (respell levels es) = strayIssues (knows es) es := by
  have unknown : (textKeys (respell levels es)).filter (fun k => !knows (respell levels es) k)
      = (textKeys es).filter fun k => !knows es k := by
    rw [textKeys_respell, List.filter_map]
    simp only [Function.comp_def, knows_respell levels once]
    refine (List.map_congr_left fun k inside => ?_).trans (List.map_id' _)
    obtain ⟨isKey, isUnknown⟩ := List.mem_filter.1 inside
    obtain ⟨e, member, isText⟩ := List.mem_filterMap.1 isKey
    have atKey : e.1 = .str k := by
      cases named : e.1 <;> rw [named] at isText <;> cases isText
      rfl
    have present : hasKey es (.str k) = true :=
      hasKey_str_iff.2 (List.mem_map.2 ⟨e, member, atKey⟩)
    exact respellName_of_not_known levels once present (by simpa using isUnknown)
  rw [strayIssues, strayIssues, unknown,
    map_filter_keyText?_respell levels (fun key => Issue.mk .keyNotText [key.place])]

end

end Config

/-! ## Issues without their places -/

/-- An issue without the path to its part. -/
def Issue.unplaced (issue : Issue) : Issue :=
  .here issue.kind

namespace Reading

variable {α β : Type}

/-- A reading without the places of its issues. -/
def unplaced (r : Reading α) : Reading α :=
  r.mapError (List.map Issue.unplaced)

theorem unplaced_under (r : Reading α) (place : Place) : (r.under place).unplaced = r.unplaced := by
  cases r with
  | ok a => rfl
  | error issues =>
    simp only [unplaced, under, Except.mapError, List.map_map]
    rfl

theorem map_unplaced_issues {r : Reading α} {r' : Reading β} {f : α → β}
    (same : r'.unplaced = unplaced (r.map f)) :
    r'.issues.map Issue.unplaced = r.issues.map Issue.unplaced := by
  cases r with
  | ok a =>
    cases r' with
    | ok b => rfl
    | error issues => cases same
  | error issues =>
    cases r' with
    | ok b => cases same
    | error issues' => exact Except.error.inj same

theorem getD_of_unplaced {r : Reading α} {r' : Reading β} {f : α → β}
    (same : r'.unplaced = unplaced (r.map f)) (default : α) :
    r'.getD (f default) = f (r.getD default) := by
  cases r with
  | ok a =>
    cases r' with
    | ok b => exact Except.ok.inj same
    | error issues => cases same
  | error issues =>
    cases r' with
    | ok b => cases same
    | error issues' => rfl

end Reading

/-- A fault without the places of its issues. -/
def Fault.unplaced : Fault → Fault
  | .misfit model issues => .misfit model (issues.map Issue.unplaced)
  | fault => fault

/-! ## Reading respelled configurations -/

/-- A criterion with other spellings in the configuration of its override. -/
def Criterion.respell (levels : List (List Setting)) (c : Criterion) : Criterion where
  values := c.values
  setting s := if s = .override then Config.respellSpec levels (c.setting s) else c.setting s

namespace Config

variable (levels : List (List Setting))

theorem readMap_respell (v : Value) :
    (respellSpec levels v).readMap = v.readMap.map (respell levels) := by
  cases v with
  | map spec =>
    rw [respellSpec, Value.readMap, Value.readMap, keyIssues_respell]
    cases Value.keyIssues spec <;> rfl
  | _ => rfl

theorem readValue_override (v : Value) :
    Setting.override.readValue (respellSpec levels v)
      = (Setting.override.readValue v).map (respellSpec levels) := by
  have reads : (respellSpec levels v).readMap.map Value.map
      = (v.readMap.map Value.map).map (respellSpec levels) := by
    rw [readMap_respell]
    cases v.readMap <;> rfl
  cases v with
  | null => rfl
  | _ => exact reads

theorem readValue_respell (s : Setting) (v : Value) :
    s.readValue (if s = .override then respellSpec levels v else v)
      = (s.readValue v).map fun w => if s = .override then respellSpec levels w else w := by
  split
  next same =>
    rw [same]
    exact readValue_override levels v
  next => cases s.readValue v <;> rfl

variable {es : Entries} (once : SpelledAlike es es)

include once

/-- Each setting is read alike, apart from the spellings inside the override configuration. -/
theorem readSetting_respell (s : Setting) :
    (s.read (respell levels es)).unplaced =
      Reading.unplaced ((s.read es).map fun w =>
        if s = .override then respellSpec levels.tail w else w) := by
  cases used : s.spelling? es with
  | none =>
    have used' : s.spelling? (respell levels es) = none := by
      rw [spelling?_respell levels once, used]
      rfl
    rw [Setting.read_of_unused used, Setting.read_of_unused used']
    cases s <;> rfl
  | some k =>
    have used' : s.spelling? (respell levels es) = some (respellName (levels.headD []) k) := by
      rw [spelling?_respell levels once, used]
      rfl
    have spelled := (Setting.spelling?_eq_some used).1
    have holds : get (respell levels es) (.str (respellName (levels.headD []) k))
        = if s = .override then respellSpec levels.tail (get es (.str k)) else get es (.str k) := by
      have found := get?_respell levels es (.str k)
      rw [respellKey] at found
      rw [Entries.get, found, Entries.get, ← respellAt_of_mem spelled]
      cases get? es (.str k) with
      | none => rw [respellAt_of_mem spelled]; split <;> rfl
      | some v => rfl
    rw [Setting.read_of_used used, Setting.read_of_used used', Reading.unplaced_under, holds,
      readValue_respell]
    cases s.readValue (get es (.str k)) with
    | ok w => rfl
    | error issues => exact (Reading.unplaced_under (.error issues) (.key k)).symm

theorem issues_respell :
    (issues (respell levels es)).map Issue.unplaced = (issues es).map Issue.unplaced := by
  rw [issues, issues, strayIssues_respell levels once, List.map_append, List.map_append,
    List.map_flatMap, List.map_flatMap]
  refine congrArg (· ++ _) (congrArg (fun f => Setting.all.flatMap f) (funext fun s => ?_))
  exact Reading.map_unplaced_issues (readSetting_respell levels once s)

theorem contents_respell :
    contents (respell levels es) = (contents es).respell levels.tail := by
  apply Criterion.ext
  · simp only [contents, get_respell_values]
    rfl
  · funext s
    have default : s.default
        = if s = .override then respellSpec levels.tail s.default else s.default := by
      cases s <;> rfl
    simp only [contents, Criterion.respell]
    conv_lhs => rw [default]
    exact Reading.getD_of_unplaced (readSetting_respell levels once s) s.default

theorem readEntries_respell :
    (readEntries (respell levels es)).mapError Fault.unplaced
      = ((readEntries es).map (Criterion.respell levels.tail)).mapError Fault.unplaced := by
  unfold readEntries
  rw [strayLabelKeys_respell]
  split
  next => rfl
  next =>
    have same := issues_respell levels once
    cases found : issues es with
    | nil =>
      rw [found, List.map_nil, List.map_eq_nil_iff] at same
      rw [same, contents_respell levels once]
      rfl
    | cons issue rest =>
      cases found' : issues (respell levels es) with
      | nil =>
        rw [found, found'] at same
        cases same
      | cons issue' rest' =>
        rw [found, found'] at same
        exact congrArg (fun issues => Except.error (Fault.misfit .criterion issues)) same

/-- A configuration without an attribute in both spellings describes the same criterion in other
spellings, or is faulty for the same reasons. -/
theorem read_respell :
    (read (respell levels es)).mapError Fault.unplaced
      = ((read es).map (Criterion.respell levels.tail)).mapError Fault.unplaced := by
  have onceMarked : SpelledAlike (markSingle es) (markSingle es) := by
    unfold markSingle
    split
    · exact (spelledAlike_insert (plainlyKeyed_key rfl _)).2 once
    · exact once
  rw [read, read, markSingle_respell]
  exact readEntries_respell levels onceMarked

end Config

end Criteria
