import Criteria.Criterion.Members
import Criteria.Criterion.Override
import Criteria.Proofs.Config.Spelled

/-! # Overrides inside overrides

What the criteria for marked values depend on, at every depth.

* `Config.SameSettings` — configurations that differ in their values alone;
* `Criterion.Nests` — the override criteria of a criterion, those of its overrides, and so on.

Values play no part in whether a configuration is accepted: `override_values` says that the override
criterion for other values is the same one with these values.  So the probe without values that is
made when a criterion is read decides for all of them (`override_accepted`), and since the
overrides form a chain that gets shorter, what is accepted stays accepted under other catalogs as
long as they know the labellers that are named along the chain (`ofEntries_of_kept`).
-/

namespace Criteria

open Entries

/-! ## Configurations that differ in their values -/

namespace Entries

theorem strayIssues_congr {known known' : String → Bool} {es fs : Entries}
    (sameKeys : keys es = keys fs) (sameKnown : ∀ k, known k = known' k) :
    strayIssues known es = strayIssues known' fs := by
  have byKeys (known : String → Bool) (es : Entries) : strayIssues known es =
      ((keys es).filter fun key => key.keyText?.isNone).map (fun key => ⟨.keyNotText, [key.place]⟩)
        ++ (Text.sortWords (((keys es).filterMap Value.keyText?).filter fun k => !known k)).map
          fun k => .atKey k .unknownKey := by
    simp only [strayIssues, textKeys, keys, List.filter_map, List.map_map, List.filterMap_map,
      Function.comp_def]
  rw [byKeys, byKeys, sameKeys, funext sameKnown]

end Entries

namespace Config

structure SameSettings (es fs : Entries) : Prop where
  keys : Entries.keys es = Entries.keys fs
  settings : ∀ k : String, k ≠ valuesKey → get? es (.str k) = get? fs (.str k)

theorem SameSettings.get {es fs : Entries} (same : SameSettings es fs) (s : Setting) :
    get es (.str s.key) = get fs (.str s.key) := by
  rw [Entries.get, same.settings s.key s.key_ne_valuesKey, Entries.get]

theorem sameSettings_insert_values (es : Entries) (v w : Value) :
    SameSettings (insert es (.str valuesKey) v) (insert es (.str valuesKey) w) where
  keys := by
    rw [Entries.insert, Entries.insert, keys_overlay, keys_overlay]
    rfl
  settings k other := by
    rw [get?_insert_of_ne v other.symm, get?_insert_of_ne w other.symm]

theorem SameSettings.insert {es fs : Entries} (same : SameSettings es fs) (key v : Value) :
    SameSettings (insert es key v) (insert fs key v) where
  keys := by simp only [Entries.insert, keys_overlay, same.keys]
  settings k other := by rw [get?_insert, get?_insert, same.settings k other]

theorem SameSettings.markSingle {es fs : Entries} (same : SameSettings es fs) :
    SameSettings (markSingle es) (markSingle fs) := by
  unfold Config.markSingle
  rw [same.settings Setting.name.key (Setting.key_ne_valuesKey _)]
  split
  · exact same.insert _ _
  · exact same

/-- A configuration with other values describes the same criterion with these values, or is faulty
in the same way. -/
theorem read_of_sameSettings {es fs : Entries} (same : SameSettings es fs) :
    read fs = (read es).map fun c => c.setValues (get fs valuesKey) := by
  -- no setting is spelled like the values, so every setting is read alike
  have marked := same.markSingle
  have agree (s : Setting) : ∀ k ∈ s.spellings,
      get? (markSingle es) (.str k) = get? (markSingle fs) (.str k) := by
    intro k spelled
    apply marked.settings
    rintro rfl
    exact s.valuesKey_not_mem_spellings spelled
  have sameReading (s : Setting) : s.read (markSingle fs) = s.read (markSingle es) :=
    (Setting.read_congr (agree s)).symm
  have sameStray : strayLabelKeys (markSingle fs) = strayLabelKeys (markSingle es) := by
    simp only [strayLabelKeys, marked.get]
  have sameIssues : issues (markSingle fs) = issues (markSingle es) := by
    have sameKnown (k : String) : knows (markSingle fs) k = knows (markSingle es) k := by
      simp only [knows, Setting.spelling?_congr (agree _)]
    have sameFound : Setting.issues (markSingle fs) = Setting.issues (markSingle es) := by
      funext s
      rw [Setting.issues, Setting.issues, sameReading]
    rw [issues, issues, sameFound, strayIssues_congr marked.keys.symm sameKnown]
  have sameContents :
      contents (markSingle fs) = (contents (markSingle es)).setValues (get fs valuesKey) := by
    apply Criterion.ext
    · rw [Criterion.values_setValues, contents,
        get_markSingle (Setting.key_ne_valuesKey _).symm]
    · funext s
      simp only [Criterion.setting_setValues, contents, sameReading]
  unfold read readEntries
  rw [sameStray, sameIssues]
  split
  · rfl
  · split
    · rw [sameContents]
      rfl
    · rfl

section

variable {es : Entries} {c : Criterion} (accepted : read es = .ok c)

include accepted

/-- A setting with one spelling holds what is read from the value that is given for it. -/
theorem readValue_of_read {s : Setting} {v : Value} (plain : s.alias? = none)
    (other : s.key ≠ Setting.single.key) (given : get? es (.str s.key) = some v) :
    s.readValue v = .ok (c.setting s) := by
  have reads := (read_eq_ok.1 accepted).settings s
  have found := (get?_markSingle other).trans given
  have used : s.spelling? (markSingle es) = some s.key := by
    rw [Setting.spelling?_of_no_alias (by simp [plain]), ← isSome_get?, found]
    rfl
  rw [Setting.read_of_used used, get_eq_of_get? found] at reads
  exact Setting.under_eq_ok.1 reads

/-- A setting with one spelling has its default when nothing is given for it. -/
theorem setting_of_absent {s : Setting} (plain : s.alias? = none)
    (other : s.key ≠ Setting.single.key) (absent : get? es (.str s.key) = none) :
    c.setting s = s.default := by
  have reads := (read_eq_ok.1 accepted).settings s
  have unused : s.spelling? (markSingle es) = none := by
    rw [Setting.spelling?_of_no_alias (by simp [plain]), ← isSome_get?, get?_markSingle other,
      absent]
    rfl
  rw [Setting.read_of_unused unused] at reads
  split at reads
  next => cases reads
  next => exact (Except.ok.inj reads).symm

/-- A setting that is read as it is holds what is given for it, or its default. -/
theorem setting_of_read {s : Setting} (plain : s.alias? = none)
    (other : s.key ≠ Setting.single.key) (asIs : s.shape ∈ Shape.verbatim) :
    c.setting s = (get? es (.str s.key)).getD s.default := by
  cases given : get? es (.str s.key) with
  | some v => exact Setting.eq_of_readValue asIs (readValue_of_read accepted plain other given)
  | none => exact setting_of_absent accepted plain other given

theorem setting_override_of_read : c.setting .override = get es Setting.override.key :=
  setting_of_read accepted rfl (by decide) (by decide)

end

end Config

/-! ## Override criteria for other values -/

/-- The settings that an override criterion takes from its parent. -/
def Setting.inherited : List Setting :=
  [.name, .transform, .catalog, .engine]

namespace Criterion

theorem overrideConfig_congr {c d : Criterion}
    (same : ∀ s ∈ Setting.inherited, c.setting s = d.setting s)
    (spec : Entries) (values : Value) :
    c.overrideConfig spec values = d.overrideConfig spec values := by
  have inherits : c.inherited = d.inherited :=
    List.map_congr_left fun s member => by rw [same s member]
  rw [overrideConfig, overrideConfig, inherits]

/-- An override criterion depends on five settings alone. -/
theorem override_congr {cs : Catalogs} {c d : Criterion}
    (same : ∀ s ∈ .override :: Setting.inherited, c.setting s = d.setting s) (values : Value) :
    c.override cs values = d.override cs values := by
  have config (spec : Entries) := overrideConfig_congr
    (fun s member => same s (List.mem_cons_of_mem _ member)) spec values
  have spec : c.overrideSpec = d.overrideSpec := by
    rw [overrideSpec, overrideSpec, flag, flag, same .override List.mem_cons_self]
  simp only [override, spec, config]

theorem checkLabeller_setValues (cs : Catalogs) (c : Criterion) (v : Value) :
    (c.setValues v).checkLabeller cs = c.checkLabeller cs := rfl

theorem ofEntriesAlone_of_sameSettings {cs : Catalogs} {es fs : Entries}
    (same : Config.SameSettings es fs) :
    ofEntriesAlone cs fs = (ofEntriesAlone cs es).map fun c => c.setValues (get fs valuesKey) := by
  unfold ofEntriesAlone
  rw [Config.read_of_sameSettings same]
  cases Config.read es with
  | error fault => rfl
  | ok c =>
    change ((c.setValues _).checkLabeller cs >>= _) = Except.map _ (c.checkLabeller cs >>= _)
    rw [checkLabeller_setValues]
    cases c.checkLabeller cs <;> rfl

theorem ofEntries_of_sameSettings {cs : Catalogs} {es fs : Entries}
    (same : Config.SameSettings es fs) :
    ofEntries cs fs = (ofEntries cs es).map fun c => c.setValues (get fs valuesKey) := by
  rw [ofEntries_eq, ofEntries_eq, ofEntriesAlone_of_sameSettings same, same.get .override]
  cases ofEntriesAlone cs es with
  | error fault => rfl
  | ok c =>
    cases get fs (.str Setting.override.key) with
    | map spec =>
      have config : (c.setValues (get fs valuesKey)).overrideConfig spec (.list [])
          = c.overrideConfig spec (.list []) := overrideConfig_congr (fun _ _ => rfl) _ _
      change (ofEntries cs ((c.setValues _).overrideConfig spec _) >>= _)
        = Except.map _ (ofEntries cs (c.overrideConfig spec _) >>= _)
      rw [config]
      cases ofEntries cs (c.overrideConfig spec (.list [])) <;> rfl
    | _ => rfl

/-- The override criterion for other values is the same one with these values, and is refused for
all values alike. -/
theorem override_values (cs : Catalogs) (c : Criterion) (v w : Value) :
    c.override cs w = (c.override cs v).map fun o => o.setValues w := by
  unfold override
  cases c.overrideSpec with
  | error fault => rfl
  | ok spec =>
    have given : get (c.overrideConfig spec w) valuesKey = w := get_insert_str _ _ _
    have replaced := @ofEntries_of_sameSettings cs _ _
      (Config.sameSettings_insert_values (overlay c.inherited spec) v w)
    change ofEntries cs (c.overrideConfig spec w)
      = (ofEntries cs (c.overrideConfig spec v)).map _
    rw [← overrideConfig, ← overrideConfig, given] at replaced
    exact replaced

end Criterion

/-! ## Labellers -/

namespace Catalog

theorem resolve_of_has {c : Catalog} {name : String} (known : c.has name = true) :
    ∃ kind, c.resolve name = .ok kind := by
  rw [has_eq_isSome] at known
  obtain ⟨kind, found⟩ := Option.isSome_iff_exists.1 known
  exact ⟨kind, by rw [resolve, found]⟩

theorem resolve_of_not_has {c : Catalog} {name : String} (unknown : c.has name = false) :
    c.resolve name = .error (.unknownLabeller (.str name) c.names) := by
  rw [has_eq_isSome, Option.isSome_eq_false_iff, Option.isNone_iff_eq_none] at unknown
  rw [resolve, unknown]
  rfl

end Catalog

namespace Criterion

theorem checkLabeller_of_named {cs : Catalogs} {c : Criterion} {options : Labels.Options}
    (named : c.labelOptions? = some options) :
    c.checkLabeller cs =
      if (c.catalog cs).has options.labeller then .ok ()
      else .error (.unknownLabeller (.str options.labeller) (c.catalog cs).names) := by
  rw [checkLabeller, named]
  cases known : (c.catalog cs).has options.labeller with
  | true =>
    obtain ⟨kind, found⟩ := Catalog.resolve_of_has known
    simp only [found]
    rfl
  | false =>
    simp only [Catalog.resolve_of_not_has known]
    rfl

theorem checkLabeller_eq_ok {cs : Catalogs} {c : Criterion} :
    c.checkLabeller cs = .ok () ↔
      ∀ options, c.labelOptions? = some options →
        (c.catalog cs).has options.labeller = true := by
  cases named : c.labelOptions? with
  | none => simp [checkLabeller, named]
  | some options =>
    rw [checkLabeller_of_named named]
    simp only [Option.some.injEq, forall_eq']
    split
    next known => exact ⟨fun _ => known, fun _ => rfl⟩
    next unknown => exact ⟨nofun, fun known => absurd known unknown⟩

theorem checkLabeller_eq_error {cs : Catalogs} {c : Criterion} {fault : Fault}
    (refused : c.checkLabeller cs = .error fault) :
    ∃ options, c.labelOptions? = some options ∧
      (c.catalog cs).has options.labeller = false ∧
      fault = .unknownLabeller (.str options.labeller) (c.catalog cs).names := by
  cases named : c.labelOptions? with
  | none =>
    rw [checkLabeller, named] at refused
    cases refused
  | some options =>
    rw [checkLabeller_of_named named] at refused
    split at refused
    next => cases refused
    next unknown =>
      cases refused
      exact ⟨options, rfl, Bool.eq_false_iff.2 unknown, rfl⟩

/-! ## Acceptance along the chain of overrides -/

theorem overrideSpec_of_map {c : Criterion} {spec : Entries}
    (holds : c.setting .override = .map spec) : c.overrideSpec = .ok spec := by
  rw [overrideSpec, flag, holds]
  cases spec <;> rfl

theorem overrideSpec_of_null {c : Criterion} (holds : c.setting .override = .null) :
    c.overrideSpec = .ok [] := by
  rw [overrideSpec, flag, holds]
  rfl

theorem override_of_map {cs : Catalogs} {c : Criterion} {spec : Entries}
    (holds : c.setting .override = .map spec) (values : Value) :
    c.override cs values = ofEntries cs (c.overrideConfig spec values) := by
  rw [override, overrideSpec_of_map holds]
  rfl

theorem override_of_null {cs : Catalogs} {c : Criterion} (holds : c.setting .override = .null)
    (values : Value) : c.override cs values = ofEntries cs (c.overrideConfig [] values) := by
  rw [override, overrideSpec_of_null holds]
  rfl

/-- How a configuration that describes a criterion is read: the labeller of the criterion is looked
up, and then the configuration of its override is read without values. -/
theorem ofEntries_of_read {cs : Catalogs} {es : Entries} {c : Criterion}
    (reads : Config.read es = .ok c) :
    ofEntries cs es = (c.checkLabeller cs).bind fun _ =>
      match c.setting .override with
      | .map spec => (ofEntries cs (c.overrideConfig spec (.list []))).map fun _ => c
      | _ => .ok c := by
  have alone : ofEntriesAlone cs es = c.checkLabeller cs >>= fun _ => .ok c := by
    rw [ofEntriesAlone, reads]
    rfl
  rw [ofEntries_eq, alone, Config.setting_override_of_read reads]
  cases c.checkLabeller cs with
  | error fault => rfl
  | ok known =>
    cases get es (.str Setting.override.key) with
    | map spec =>
      change (ofEntries cs (c.overrideConfig spec (.list [])) >>= _) = Except.map _ _
      cases ofEntries cs (c.overrideConfig spec (.list [])) <;> rfl
    | _ => rfl

theorem ofEntries_of_refused {es : Entries} {fault : Fault}
    (refused : Config.read es = .error fault) (cs : Catalogs) :
    ofEntries cs es = .error fault := by
  rw [ofEntries_eq, ofEntriesAlone, refused]
  rfl

/-- A configuration without label options and without an override is read alike whatever the
catalogs. -/
theorem ofEntries_of_plain {es : Entries} (noLabels : get? es Setting.labels.key = none)
    (noOverride : get? es Setting.override.key = none) (cs : Catalogs) :
    ofEntries cs es = Config.read es := by
  cases reads : Config.read es with
  | error fault => exact ofEntries_of_refused reads cs
  | ok c =>
    have noOptions : c.labelOptions? = none := by
      rw [labelOptions?, Config.setting_of_absent reads rfl (by decide) noLabels]
      rfl
    rw [ofEntries_of_read reads, checkLabeller, noOptions,
      Config.setting_of_absent reads rfl (by decide) noOverride]
    rfl

/-- A configuration is accepted when it describes a criterion, the labeller of the criterion is
known, and the probe of its override is accepted. -/
theorem ofEntries_eq_ok {cs : Catalogs} {es : Entries} {c : Criterion} :
    ofEntries cs es = .ok c ↔
      Config.read es = .ok c ∧ c.checkLabeller cs = .ok () ∧
        ∀ spec, c.setting .override = .map spec →
          ∃ o, ofEntries cs (c.overrideConfig spec (.list [])) = .ok o := by
  constructor
  · intro accepted
    obtain ⟨reads, known⟩ := ofEntriesAlone_eq_ok.1 (ofEntriesAlone_of_ofEntries accepted)
    refine ⟨reads, known, fun spec holds => ?_⟩
    rw [ofEntries_of_read reads, known, holds] at accepted
    obtain ⟨o, probed, _⟩ := Outcome.map_eq_ok.1 accepted
    exact ⟨o, probed⟩
  · rintro ⟨reads, known, probes⟩
    rw [ofEntries_of_read reads, known]
    cases holds : c.setting .override with
    | map spec =>
      obtain ⟨o, probed⟩ := probes spec holds
      exact Outcome.map_eq_ok.2 ⟨o, probed, rfl⟩
    | _ => rfl

/-- What holds of an accepted configuration when it holds of that of its override, holds of every
accepted configuration, since the chain of overrides gets shorter at each level. -/
theorem ofEntries_induction {cs : Catalogs}
    {motive : ∀ (es : Entries) (c : Criterion), ofEntries cs es = .ok c → Prop}
    (level : ∀ es c (accepted : ofEntries cs es = .ok c),
      (∀ spec, c.setting .override = .map spec →
        ∃ o, ∃ probed : ofEntries cs (c.overrideConfig spec (.list [])) = .ok o,
          motive (c.overrideConfig spec (.list [])) o probed) → motive es c accepted)
    {es : Entries} {c : Criterion} (accepted : ofEntries cs es = .ok c) : motive es c accepted := by
  induction chain : Entries.overrideChain es generalizing es c with
  | nil =>
    obtain ⟨reads, _, _⟩ := ofEntries_eq_ok.1 accepted
    refine level es c accepted fun spec holds => ?_
    rw [overrideChain_eq, ← Config.setting_override_of_read reads, holds] at chain
    cases chain
  | cons first rest inductionHypothesis =>
    obtain ⟨reads, _, probes⟩ := ofEntries_eq_ok.1 accepted
    refine level es c accepted fun spec holds => ?_
    obtain ⟨o, probed⟩ := probes spec holds
    rw [overrideChain_eq, ← Config.setting_override_of_read reads, holds] at chain
    refine ⟨o, probed, inductionHypothesis probed ?_⟩
    rw [overrideChain_overrideConfig]
    exact (List.cons.inj chain).2

/-- The settings of an override criterion that inherits everything. -/
theorem get?_overrideConfig_nil (c : Criterion) (values : Value) (s : Setting) :
    get? (c.overrideConfig [] values) (.str s.key)
      = if s ∈ Setting.inherited then some (c.setting s) else none := by
  rw [overrideConfig, get?_insert_of_ne _ s.key_ne_valuesKey.symm, get?_overlay, get?_nil,
    Option.none_or]
  exact get?_map_key _ _ s

theorem overrideConfig_nil_keyed (c : Criterion) (values : Value) :
    ∀ key ∈ keys (c.overrideConfig [] values),
      key = .str valuesKey ∨ ∃ s : Setting, key = .str s.key := by
  intro key member
  rcases mem_keys_insert member with inherits | isValues
  · rw [keys_overlay] at inherits
    rcases List.mem_append.1 inherits with inherits | added
    · obtain ⟨e, inside, rfl⟩ := List.mem_map.1 inherits
      obtain ⟨s, _, rfl⟩ := List.mem_map.1 inside
      exact .inr ⟨s, rfl⟩
    · cases (List.mem_filter.1 added).1
  · exact .inl isValues

/-- The override criterion that inherits everything is read without a look at any catalog: it has no
labels and no override of its own that could be refused. -/
theorem ofEntries_overrideConfig_nil (c : Criterion) (cs : Catalogs) (values : Value) :
    ofEntries cs (c.overrideConfig [] values) = Config.read (c.overrideConfig [] values) := by
  have found := get?_overrideConfig_nil c values
  have noLabels : get? (c.overrideConfig [] values) Setting.labels.key = none := by
    rw [found, if_neg (by decide)]
  have noOverride : get? (c.overrideConfig [] values) Setting.override.key = none := by
    rw [found, if_neg (by decide)]
  exact ofEntries_of_plain noLabels noOverride cs

theorem ofEntries_inherited {c : Criterion} (typed : c.Typed) (cs : Catalogs) (values : Value) :
    ∃ o, ofEntries cs (c.overrideConfig [] values) = .ok o := by
  have found := get?_overrideConfig_nil c values
  have noStray : Config.strayLabelKeys (c.overrideConfig [] values) = [] := by
    rw [Config.strayLabelKeys, Entries.get, found, if_neg (by decide)]
    rfl
  rw [ofEntries_overrideConfig_nil]
  apply Config.read_of_valid noStray
  apply Config.valid_of_holds (overrideConfig_nil_keyed c values)
  · intro s v isThere
    rw [found] at isThere
    split at isThere
    · cases isThere
      exact typed s
    · cases isThere
  · rw [← isSome_get?, found]
    rfl

/-- The override criteria of an accepted criterion are accepted, whatever their values. -/
theorem override_accepted {cs : Catalogs} {es : Entries} {c : Criterion}
    (accepted : ofEntries cs es = .ok c) (values : Value) :
    ∃ o, c.override cs values = .ok o := by
  obtain ⟨reads, _, probes⟩ := ofEntries_eq_ok.1 accepted
  rcases (typed_of_read reads).override with holds | ⟨spec, holds⟩
  · rw [override_of_null holds]
    exact ofEntries_inherited (typed_of_read reads) cs values
  · obtain ⟨o, probed⟩ := probes spec holds
    rw [← override_of_map holds] at probed
    exact ⟨o.setValues values, by rw [override_values cs c (.list []), probed]; rfl⟩

/-! ## Overrides at every depth -/

/-- The override criteria of a criterion, those of its overrides, and so on. -/
inductive Nests (cs : Catalogs) (c : Criterion) : Criterion → Prop where
  | override {o : Criterion} {values : Value} (made : c.override cs values = .ok o) : Nests cs c o
  | next {o o' : Criterion} {values : Value} (outer : Nests cs c o)
      (made : o.override cs values = .ok o') : Nests cs c o'

theorem Nests.of_override {cs : Catalogs} {c o o' : Criterion} {values : Value}
    (made : c.override cs values = .ok o) (inner : Nests cs o o') : Nests cs c o' := by
  induction inner with
  | override made' => exact (Nests.override made).next made'
  | next _ made' inductionHypothesis => exact inductionHypothesis.next made'

theorem Nests.accepted {cs : Catalogs} {c o : Criterion} (inner : Nests cs c o) :
    ∃ es, ofEntries cs es = .ok o := by
  cases inner with
  | override made | next _ made =>
    obtain ⟨spec, _, accepted⟩ := override_eq_ok.1 made
    exact ⟨_, accepted⟩

/-- What is accepted stays accepted under catalogs that know its labeller and those of its
overrides. -/
theorem ofEntries_of_kept {cs cs' : Catalogs} {es : Entries} {c : Criterion}
    (accepted : ofEntries cs es = .ok c) (own : c.checkLabeller cs' = .ok ())
    (kept : ∀ o, Nests cs c o → o.checkLabeller cs' = .ok ()) : ofEntries cs' es = .ok c := by
  induction accepted using ofEntries_induction with
  | level es c accepted probes =>
    refine ofEntries_eq_ok.2 ⟨(ofEntries_eq_ok.1 accepted).1, own, fun spec holds => ?_⟩
    obtain ⟨o, probed, inductionHypothesis⟩ := probes spec holds
    have made : c.override cs (.list []) = .ok o := (override_of_map holds _).trans probed
    exact ⟨o, inductionHypothesis (kept o (.override made))
      fun o' inner => kept o' (.of_override made inner)⟩

end Criterion

end Criteria
