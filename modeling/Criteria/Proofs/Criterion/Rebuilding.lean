import Criteria.Proofs.Clause.Safety

/-! # Dumps can be read again

A dump is a configuration of the criterion that was dumped, but for the collaborators, which it
leaves out.

* `Value.isPlain`, `Criterion.IsPlain` — data that a dump writes as it is;
* `Criterion.collaborators` — what a dump leaves out;
* `Criterion.given?_rebuilt` — what a dump and the collaborators give for each setting.

A changed criterion has settings that nothing has checked since they were written.  Still each of
them holds what it is for, and `readValue_of_holds` says that this is read back as it is.  Only
label options are written in another form than the one they have (`readValue_plainSetting`).
-/

namespace Criteria

open Entries

/-! ## Plain data -/

namespace Value

mutual

/-- Whether a value holds no label options, at any depth. -/
def isPlain : Value → Bool
  | .options _ => false
  | .list items | .tuple items => arePlain items
  | .map entries => holdPlain entries
  | _ => true

def arePlain : List Value → Bool
  | [] => true
  | v :: vs => isPlain v && arePlain vs

def holdPlain : List (Value × Value) → Bool
  | [] => true
  | (k, v) :: es => !holdsOptions k && isPlain v && holdPlain es

end

mutual

theorem plain_of_isPlain {v : Value} (isPlain : v.isPlain = true) :
    v.plain = v ∧ v.keysStayKeys = true := by
  cases v with
  | options o => cases isPlain
  | list items | tuple items =>
    obtain ⟨same, keys⟩ := plainItems_of_arePlain isPlain
    exact ⟨by rw [plain, same], keys⟩
  | map entries =>
    obtain ⟨same, keys⟩ := plainEntries_of_holdPlain isPlain
    exact ⟨by rw [plain, same], keys⟩
  | _ => exact ⟨rfl, rfl⟩

theorem plainItems_of_arePlain {vs : List Value} (arePlain : arePlain vs = true) :
    plainItems vs = vs ∧ itemsStayKeys vs = true := by
  cases vs with
  | nil => exact ⟨rfl, rfl⟩
  | cons v vs =>
    obtain ⟨first, rest⟩ := Bool.and_eq_true_iff.1 arePlain
    obtain ⟨same, keys⟩ := plain_of_isPlain first
    obtain ⟨others, otherKeys⟩ := plainItems_of_arePlain rest
    exact ⟨by rw [plainItems, same, others], by rw [itemsStayKeys, keys, otherKeys]; rfl⟩

theorem plainEntries_of_holdPlain {es : List (Value × Value)} (holdPlain : holdPlain es = true) :
    plainEntries es = es ∧ entriesStayKeys es = true := by
  cases es with
  | nil => exact ⟨rfl, rfl⟩
  | cons e es =>
    obtain ⟨k, v⟩ := e
    obtain ⟨first, rest⟩ := Bool.and_eq_true_iff.1 holdPlain
    obtain ⟨key, value⟩ := Bool.and_eq_true_iff.1 first
    obtain ⟨same, keys⟩ := plain_of_isPlain value
    obtain ⟨others, otherKeys⟩ := plainEntries_of_holdPlain rest
    exact ⟨by rw [plainEntries, same, others], by rw [entriesStayKeys, key, keys, otherKeys]; rfl⟩

end

theorem arePlain_of_texts {vs : List Value} (texts : ∀ v ∈ vs, ∃ s, v = .str s) :
    arePlain vs = true := by
  induction vs with
  | nil => rfl
  | cons v vs inductionHypothesis =>
    obtain ⟨⟨s, rfl⟩, rest⟩ := List.forall_mem_cons.1 texts
    rw [arePlain, inductionHypothesis rest]
    rfl

end Value

namespace Labels.Options

theorem accepts_optionEntries (o : Options) : Accepts (Value.optionEntries o) := by
  obtain ⟨key, label, labeller⟩ := o
  have isText (text : Option String) :
      Value.ofText? text = .null ∨ ∃ s, Value.ofText? text = .str s := by
    cases text with
    | none => exact .inl rfl
    | some s => exact .inr ⟨s, rfl⟩
  refine ⟨?_, ?_, ?_, ?_⟩
  · intro key member
    simp only [keys, Value.optionEntries, List.map_cons, List.map_nil, List.mem_cons,
      List.not_mem_nil, or_false] at member
    rcases member with rfl | rfl | rfl
    · exact ⟨"key", by decide, rfl⟩
    · exact ⟨"label", by decide, rfl⟩
    · exact ⟨"resolver", by decide, rfl⟩
  · rintro _ ⟨⟩
    exact isText key
  · rintro _ ⟨⟩
    exact isText label
  · rintro _ ⟨⟩
    exact ⟨labeller, rfl⟩

/-- Label options are read back from a mapping of their members, where a field that is not given is
null. -/
theorem read_optionEntries (o : Options) : read (.map (Value.optionEntries o)) = .ok o := by
  simp only [read, readEntries, issues_eq_nil.2 o.accepts_optionEntries]
  obtain ⟨key, label, labeller⟩ := o
  cases key <;> cases label <;> rfl

end Labels.Options

namespace Criterion

/-- A criterion with plain data for its values, for the ends of its range and for the configuration
of its override.  Everything else is plain in any case, label options apart. -/
structure IsPlain (c : Criterion) : Prop where
  values : Value.arePlain c.values = true
  bounds : ∀ b, (c.setting (.bound b)).isPlain = true
  override : (c.setting .override).isPlain = true

theorem Typed.isPlain_setting {c : Criterion} (typed : c.Typed) (plain : c.IsPlain) {s : Setting}
    (shown : s.isCollaborator = false) (other : s ≠ .labels) : (c.setting s).isPlain = true := by
  rcases typed s with ⟨_, isNull⟩ | holds
  · rw [isNull]
    rfl
  · cases s with
    | transform | catalog | engine => cases shown
    | labels => exact absurd rfl other
    | bound b => exact plain.bounds b
    | override => exact plain.override
    | fields =>
      obtain ⟨items, isList, texts⟩ := holds
      rw [isList]
      exact Value.arePlain_of_texts texts
    | _ =>
      obtain ⟨a, isAtom⟩ := holds
      rw [isAtom]
      rfl

/-! ## What a dump gives for each setting -/

/-- A dump is read back as it is, setting by setting. -/
theorem Typed.readValue_plainSetting {c : Criterion} (typed : c.Typed) (plain : c.IsPlain)
    {s : Setting} (shown : s.isCollaborator = false) :
    s.readValue (c.plainSetting s) = .ok (c.setting s) := by
  by_cases isLabels : s = .labels
  · subst isLabels
    rcases typed.labels with isNull | ⟨options, isOptions⟩
    · rw [plainSetting, isNull]
      rfl
    · rw [plainSetting, isOptions]
      exact Outcome.map_eq_ok.2 ⟨options, options.read_optionEntries, rfl⟩
  · have same := (Value.plain_of_isPlain (typed.isPlain_setting plain shown isLabels)).1
    rw [plainSetting, if_neg fun both => isLabels both.1, same]
    exact Setting.readValue_of_holds (typed s)

theorem Typed.isPlainable {c : Criterion} (typed : c.Typed) (plain : c.IsPlain) :
    c.isPlainable = true := by
  rw [Criterion.isPlainable, (Value.plainItems_of_arePlain plain.values).2, Bool.true_and,
    List.all_eq_true]
  intro s dumped
  have shown : s.isCollaborator = false := by simpa using (List.mem_filter.1 dumped).2
  by_cases isLabels : s = .labels
  · subst isLabels
    rcases typed.labels with isNull | ⟨options, isOptions⟩
    · rw [isNull]
      rfl
    · rw [isOptions]
      rfl
  · exact (Value.plain_of_isPlain (typed.isPlain_setting plain shown isLabels)).2

end Criterion

/-! ## The name for keywords -/

namespace Config

/-- A criterion with the name for keywords is single from the start. -/
theorem single_of_read {es : Entries} {c : Criterion} (accepted : read es = .ok c)
    (keywords : c.setting .name = .str keywordsName) : c.setting .single = .bool true := by
  have isName : get es Setting.name.key = .str keywordsName :=
    (setting_of_read accepted rfl (by decide) (by decide)).symm.trans keywords
  have sets := (read_eq_ok_iff_specifies.1 accepted).sets .single
  rwa [Sets, if_pos ⟨rfl, isName⟩] at sets

end Config

theorem Criterion.Evolved.single_of_keywords {c : Criterion} (evolved : c.Evolved)
    (keywords : c.name = .str keywordsName) : c.isSingle = true := by
  obtain ⟨cs, c₀, changes, constructed, rfl⟩ := evolved
  obtain ⟨es, accepted⟩ := constructed.accepted
  rw [Criterion.name, Criterion.setting_changeAll c₀ changes (by decide)] at keywords
  rw [Criterion.isSingle, Criterion.flag, Criterion.setting_changeAll c₀ changes (by decide),
    Config.single_of_read (Criterion.ofEntries_eq_ok.1 accepted).1 keywords]
  rfl

/-! ## Rebuilding -/

namespace Setting

theorem dumpKey_mem_spellings (aliased : Bool) (s : Setting) : s.dumpKey aliased ∈ s.spellings := by
  cases aliased with
  | false => exact s.key_mem_spellings
  | true =>
    rw [dumpKey, if_pos rfl]
    cases isAlias : s.alias? with
    | none => exact s.key_mem_spellings
    | some k => exact mem_spellings_of_alias isAlias

theorem dumpKey_of_isCollaborator {s : Setting} (aliased : Bool)
    (hidden : s.isCollaborator = true) :
    s.dumpKey aliased = s.key := by
  cases s with
  | transform | catalog | engine => cases aliased <;> rfl
  | _ => cases hidden

end Setting

namespace Criterion

/-- The collaborators of a criterion, which its dumps leave out, under their names. -/
def collaborators (c : Criterion) : Entries :=
  (Setting.all.filter Setting.isCollaborator).map fun s => (.str s.key, c.setting s)

/-- The entries of a dump. -/
def dumped (aliased : Bool) (c : Criterion) : Entries :=
  (.str valuesKey, .list (Value.plainItems c.values))
    :: dumpedSettings.map fun s => (.str (s.dumpKey aliased), c.plainSetting s)

theorem Typed.dump {c : Criterion} (typed : c.Typed) (plain : c.IsPlain) (aliased : Bool) :
    c.dump aliased = .ok (.map (c.dumped aliased)) := by
  rw [Criterion.dump, if_pos (typed.isPlainable plain)]
  rfl

theorem dumped_eq (aliased : Bool) (c : Criterion) :
    c.dumped aliased
      = ((some (.list (Value.plainItems c.values))).map fun v => (.str valuesKey, v)).toList
        ++ dumpedSettings.map fun s => (.str (s.dumpKey aliased), c.plainSetting s) := rfl

theorem wellKeyed_rebuilt (aliased : Bool) (c : Criterion) :
    Config.WellKeyed (overlay (c.dumped aliased) c.collaborators) := by
  have spelled := Setting.dumpKey_mem_spellings aliased
  rw [dumped_eq]
  refine Config.wellKeyed_overlay
    (Config.wellKeyed_values_append _ (Config.wellKeyed_map_spelled spelled _ _))
    (Config.wellKeyed_map_spelled Setting.key_mem_spellings _ _)
    ((Config.spelledAlike_values_append _).2 ?_)
  refine Config.spelledAlike_map_spelled Setting.key_mem_spellings _ _ spelled _ _
    fun s isCollaborator _ => ?_
  exact (Setting.dumpKey_of_isCollaborator aliased (List.mem_filter.1 isCollaborator).2).symm

theorem given?_rebuilt (aliased : Bool) (c : Criterion) (s : Setting) :
    s.given? (overlay (c.dumped aliased) c.collaborators) =
      some (if s.isCollaborator then c.setting s else c.plainSetting s) := by
  rw [Config.given?_overlay (c.wellKeyed_rebuilt aliased).once, dumped_eq,
    Config.given?_values_append, Config.given?_map_spelled (Setting.dumpKey_mem_spellings aliased),
    collaborators, Config.given?_map_spelled Setting.key_mem_spellings]
  cases hidden : s.isCollaborator with
  | true => simp [s.mem_all, hidden]
  | false => simp [s.mem_all, hidden, dumpedSettings]

/-- What a dump and the collaborators describe together is the criterion that was dumped. -/
theorem Typed.read_rebuilt {c : Criterion} (typed : c.Typed) (plain : c.IsPlain)
    (single : c.setting .name = .str keywordsName → c.setting .single = .bool true)
    (aliased : Bool) : Config.read (overlay (c.dumped aliased) c.collaborators) = .ok c := by
  have given := c.given?_rebuilt aliased
  have isName : get (overlay (c.dumped aliased) c.collaborators) Setting.name.key
      = c.setting .name := by
    obtain ⟨name, isText⟩ := typed.name
    rw [Config.get_eq_given? rfl, given, isText]
    simp only [plainSetting, isText]
    rfl
  refine Config.read_eq_ok_iff_specifies.2 ⟨c.wellKeyed_rebuilt aliased, ?_, ?_, fun s => ?_⟩
  · rw [Config.strayLabelKeys, Config.get_eq_given? rfl, given]
    rcases typed.labels with isNull | ⟨options, isOptions⟩
    · simp only [plainSetting, isNull]
      rfl
    · simp only [plainSetting, isOptions]
      rfl
  · have hidden : get? c.collaborators (.str valuesKey) = none := rfl
    rw [Entries.get, get?_overlay, hidden, Option.none_or, dumped, get?_cons, Value.sameKey_str,
      decide_eq_true rfl, if_pos rfl, (Value.plainItems_of_arePlain plain.values).1]
    rfl
  · rw [Config.Sets, isName, given]
    split
    next decided => rw [decided.1, single decided.2]
    next =>
      cases hidden : s.isCollaborator with
      | true => exact Setting.readValue_of_holds (typed s)
      | false => exact typed.readValue_plainSetting plain hidden

/-- A criterion of plain data, however it came to be and was changed, is dumped, and from its dump
and its collaborators it is built again as it is, with every setting and every value, as long as the
labellers that it and its overrides name are still known. -/
theorem rebuilt_from_dump {cs₀ cs : Catalogs} {c₀ : Criterion} (constructed : Constructed cs₀ c₀)
    (changes : List Change) (plain : (c₀.changeAll changes).IsPlain)
    (own : ∀ options, c₀.labelOptions? = some options →
      (c₀.catalog cs₀).has options.labeller = true → (c₀.catalog cs).has options.labeller = true)
    (kept : c₀.LabellersKept cs₀ cs) (aliased : Bool) :
    let c := c₀.changeAll changes
    ∃ es, c.dump aliased = .ok (.map es) ∧
      (Construction.ofConfig (.map (overlay es c.collaborators))).build cs = .ok c := by
  intro c
  obtain ⟨es, accepted⟩ := constructed.accepted
  obtain ⟨reads, known, _⟩ := ofEntries_eq_ok.1 accepted
  have typed : c.Typed := constructed.typed.changeAll changes
  have fixed {s : Setting} (isFixed : s ∈ Setting.fixed) : c.setting s = c₀.setting s :=
    setting_changeAll c₀ changes isFixed
  refine ⟨c.dumped aliased, typed.dump plain aliased, ?_⟩
  change ofEntries cs _ = .ok c
  refine ofEntries_eq_ok.2 ⟨typed.read_rebuilt plain ?_ aliased, ?_, fun spec holds => ?_⟩
  · rw [fixed (by decide), fixed (by decide)]
    exact Config.single_of_read reads
  · rw [checkLabeller_eq_ok]
    rw [checkLabeller_eq_ok] at known
    simp only [labelOptions?, catalog, catalogName?, fixed (s := .labels) (by decide),
      fixed (s := .catalog) (by decide)] at known own ⊢
    intro options named
    exact own options named (known options named)
  · obtain ⟨o, made⟩ := override_of_kept accepted kept (.list [])
    rw [← override_changeAll cs c₀ changes, override_of_map holds] at made
    exact ⟨o, made⟩

theorem rebuilt_from_dump_of_nested :
    let cs₀ := Catalogs.initial.set "own" (.ofList [("companies", .custom "suffix")])
    let cs := cs₀.modify "own" (·.insert "upper" .text)
    let changes : List Change := [.label (Stock.host []) cs₀, .edit (.bound .above (.int 3)),
      .edit (.allOf (.list [.map [("key", "1"), ("text", "One")], "2"]))]
    ∃ c es, Constructed cs₀ c ∧ (c.changeAll changes).IsPlain ∧
      (c.changeAll changes).dump true = .ok (.map es) ∧
      (Construction.ofConfig (.map (overlay es (c.changeAll changes).collaborators))).build cs
        = .ok (c.changeAll changes) := by
  intro cs₀ cs changes
  let lookup : Value := .map [("resolver", "companies")]
  let config : Value := .map [("name", "keywords"), ("resolvers", .catalog "own"), ("not", "off"),
    ("lookup", lookup), ("values", .map [("key", "0")]),
    ("user_query", .map [("transform", .transform (.named "plus2")), ("lookup", lookup)])]
  have made : ((Construction.ofConfig config).build cs₀).map (fun c =>
      (Value.arePlain (c.changeAll changes).values,
        Bound.all.all fun b => ((c.changeAll changes).setting (.bound b)).isPlain,
        ((c.changeAll changes).setting .override).isPlain, c.labelOptions?, c.catalogName?))
          = .ok (true, true, true, some ⟨none, none, "companies"⟩, some "own") := by
    decide +kernel
  obtain ⟨c, builds, facts⟩ := Outcome.map_eq_ok.1 made
  simp only [Prod.mk.injEq] at facts
  obtain ⟨values, bounds, override, isNamed, isOwn⟩ := facts
  have plain : (c.changeAll changes).IsPlain :=
    ⟨values, fun b => List.all_eq_true.1 bounds b b.mem_all, override⟩
  have own : ∀ options, c.labelOptions? = some options →
      (c.catalog cs₀).has options.labeller = true → (c.catalog cs).has options.labeller = true := by
    intro options named _
    rw [isNamed] at named
    cases named
    rw [catalog, isOwn]
    decide +kernel
  have constructed : Constructed cs₀ c := .built builds
  obtain ⟨es, dumps, again⟩ :=
    rebuilt_from_dump constructed changes plain own (.of_insert cs₀ c "own" "upper" .text) true
  exact ⟨c, es, constructed, plain, dumps, again⟩

end Criterion

end Criteria
