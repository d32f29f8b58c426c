import Criteria.Criterion.Construction
import Criteria.Proofs.Config.Spelled
import Criteria.Proofs.Criterion.Chaining

/-! # Short forms with defaults

The attributes of a short form are laid over defaults, and the configuration that results is read.

* `Config.ofAttributes` — the configuration that gives some attributes, each under its name;
* `Config.overDefaults` — the attributes of a short form put over the defaults, one by one.

Laying over goes by keys, and an attribute may have two of them.  So a short form stands for its
attributes put over the defaults as long as both spell the attributes that they share alike
(`Specifies.laid`).  Otherwise an attribute is given twice, and the short form is refused.
-/

namespace Criteria

open Entries

namespace Config

/-! ## Configurations from attributes -/

/-- The configuration that gives some values and settings, each under its name. -/
def ofAttributes (values? : Option Value) (given : Setting → Option Value) : Entries :=
  (values?.map fun v => (.str valuesKey, v)).toList
    ++ Setting.all.filterMap fun s => (given s).map fun v => (.str s.key, v)

/-- A configuration put over defaults attribute by attribute, whichever spellings the two use, under
a name that is given apart. -/
def overDefaults (name : Value) (es defaults : Entries) : Entries :=
  ofAttributes ((get? es valuesKey).or (get? defaults valuesKey)) fun s =>
    if s = .name then some name else (s.given? es).or (s.given? defaults)

section

variable (values? : Option Value) (given : Setting → Option Value)

theorem ofAttributes_eq : ofAttributes values? given
    = (values?.map fun v => (.str valuesKey, v)).toList
      ++ (Setting.all.filter fun s => (given s).isSome).map fun s =>
        (.str s.key, (given s).getD .null) := by
  rw [ofAttributes, ← List.filterMap_eq_map, ← List.filterMap_eq_filter, List.filterMap_filterMap]
  refine congrArg (_ ++ ·) (List.filterMap_congr fun s _ => ?_)
  cases isGiven : given s <;> simp [Option.guard, isGiven]

theorem get?_ofAttributes_values : get? (ofAttributes values? given) valuesKey = values? := by
  rw [ofAttributes_eq, get?_append, get?_values_map_spelled Setting.key_mem_spellings,
    Option.or_none]
  cases values? with
  | none => rfl
  | some v => simp [get?_cons]

theorem given?_ofAttributes (s : Setting) : s.given? (ofAttributes values? given) = given s := by
  rw [ofAttributes_eq, given?_values_append, given?_map_spelled Setting.key_mem_spellings]
  cases isGiven : given s <;> simp [s.mem_all, isGiven]

end

/-! ## Laying over defaults -/

section

variable {name : Value} {es defaults : Entries}

theorem strayLabelKeys_laid :
    strayLabelKeys (insert (overlay defaults es) Setting.name.key name)
      = strayLabelKeys (overDefaults name es defaults) := by
  have same : get (insert (overlay defaults es) Setting.name.key name) Setting.labels.key
      = get (overDefaults name es defaults) Setting.labels.key := by
    rw [get_eq_given? rfl, get_eq_given? rfl, given?_insert_name, overDefaults,
      given?_ofAttributes, given?_overlay_of_no_alias rfl]
  rw [strayLabelKeys, same, strayLabelKeys]

variable (config : WellKeyed es) (underneath : WellKeyed defaults)

include config underneath

theorem wellKeyed_laid_iff :
    WellKeyed (insert (overlay defaults es) Setting.name.key name) ↔ SpelledAlike es defaults := by
  rw [wellKeyed_insert_key rfl]
  exact ⟨fun wellKeyed => (spelledAlike_overlay.1 wellKeyed.once).2.2,
    fun alike => wellKeyed_overlay underneath config alike⟩

/-- A configuration laid over defaults that spell its attributes alike specifies what its attributes
put over those of the defaults do. -/
theorem Specifies.laid {c : Criterion} (specifies : Specifies (overDefaults name es defaults) c)
    (alike : SpelledAlike es defaults) :
    Specifies (insert (overlay defaults es) Setting.name.key name) c := by
  have wellKeyed := (@wellKeyed_laid_iff name es defaults config underneath).2 alike
  have once := ((wellKeyed_insert_key rfl).1 wellKeyed).once
  refine specifies.transfer wellKeyed ?_ fun s => ?_
  · rw [get_insert_of_ne _ (Setting.key_ne_valuesKey _), Entries.get, Entries.get, overDefaults,
      get?_ofAttributes_values, get?_overlay]
  · rw [overDefaults, given?_ofAttributes, given?_insert_name, given?_overlay once]

end

end Config

/-! ## Short forms -/

/-- With defaults that give known attributes, and no name among them, no argument is taken and the
short form is laid over the defaults. -/
theorem Construction.build_ofShortForm {defaults : Entries}
    (underneath : Config.WellKeyed defaults)
    (unnamed : hasKey defaults Setting.name.key = false) (cs : Catalogs) (name : Value)
    (es : Entries) :
    (Construction.ofShortForm name (.map es) defaults).build cs
      = Criterion.ofEntries cs (insert (overlay defaults es) Setting.name.key name) := by
  have free : refuseNames ["cls", "name", "config"] defaults = .ok () := by
    rw [refuseNames_eq_ok]
    intro k taken
    simp only [List.mem_cons, List.not_mem_nil, or_false] at taken
    rcases taken with rfl | rfl | rfl
    · exact underneath.hasKey_of_unknown (by decide) (by decide)
    · exact unnamed
    · exact underneath.hasKey_of_unknown (by decide) (by decide)
  change (refuseNames _ defaults >>= _) >>= _ = _
  rw [free]
  rfl

/-- A short form whose attributes, put over the defaults, describe a criterion.  It is built as that
criterion, in which every attribute is the one of the short form or else the one of the defaults,
unless the two give the same attribute under different spellings.  Then it is refused. -/
theorem Construction.short_form_over_defaults {cs : Catalogs} {name : Value}
    {es defaults : Entries} (config : Config.WellKeyed es) (underneath : Config.WellKeyed defaults)
    (unnamed : hasKey defaults Setting.name.key = false) {c : Criterion}
    (valid :
      (Construction.ofConfig (.map (Config.overDefaults name es defaults))).build cs = .ok c) :
    let built := (Construction.ofShortForm name (.map es) defaults).build cs
    (Config.SpelledAlike es defaults → built = .ok c) ∧
    (¬ Config.SpelledAlike es defaults →
      ∃ issues, built = .error (.misfit .criterion issues)) ∧
    c.setting .name = name ∧
    c.values = (((get? es valuesKey).or (get? defaults valuesKey)).getD .null).items ∧
    ∀ s : Setting, s ≠ .name → (s = .single → name ≠ .str keywordsName) →
      match (s.given? es).or (s.given? defaults) with
      | some v => s.readValue v = .ok (c.setting s)
      | none => c.setting s = s.default := by
  intro built
  obtain ⟨reads, known, probes⟩ := Criterion.ofEntries_eq_ok.1 valid
  have specifies := Config.read_eq_ok_iff_specifies.1 reads
  let laid := insert (overlay defaults es) Setting.name.key name
  have isRead : built = Criterion.ofEntries cs laid :=
    Construction.build_ofShortForm underneath unnamed cs name es
  have given := Config.given?_ofAttributes ((get? es valuesKey).or (get? defaults valuesKey))
    fun s => if s = .name then some name else (s.given? es).or (s.given? defaults)
  have isName : get (Config.overDefaults name es defaults) Setting.name.key = name := by
    rw [Config.get_eq_given? rfl, Config.overDefaults, given]
    rfl
  refine ⟨fun alike => ?_, fun clash => ?_, ?_, ?_, fun s other free => ?_⟩
  · rw [isRead, Criterion.ofEntries_eq_ok]
    exact ⟨Config.read_eq_ok_iff_specifies.2 (specifies.laid config underneath alike), known,
      probes⟩
  · have invalid : ¬ Config.Valid laid := fun valid =>
      clash ((Config.wellKeyed_laid_iff config underneath).1 valid.wellKeyed)
    have noStray := Config.strayLabelKeys_laid.trans specifies.labels
    obtain ⟨issues, _, refused⟩ := Config.read_of_invalid noStray invalid
    exact ⟨issues, isRead.trans (Criterion.ofEntries_of_refused refused cs)⟩
  · rw [← isName]
    exact Config.setting_of_read reads rfl (by decide) (by decide)
  · rw [specifies.values, Entries.get, Config.overDefaults, Config.get?_ofAttributes_values]
  · have sets := specifies.sets s
    rw [Config.Sets, if_neg fun both => free both.1 (isName.symm.trans both.2), Config.overDefaults,
      given, if_neg other] at sets
    cases isGiven : (s.given? es).or (s.given? defaults) with
    | some v => rwa [isGiven] at sets
    | none =>
      rw [isGiven] at sets
      exact sets.2

theorem Construction.short_form_over_defaults_of_shared :
    let es : Entries := [("and", .bool true), ("values", "a")]
    let defaults : Entries := [("and", .bool false), ("query_name", "tag"), ("values", "b")]
    let merged := Config.overDefaults "tags" es defaults
    ∃ c, Config.WellKeyed es ∧ Config.WellKeyed defaults ∧
      hasKey defaults Setting.name.key = false ∧
      (Construction.ofConfig (.map merged)).build .initial = .ok c ∧
      Config.SpelledAlike es defaults ∧
      (Construction.ofShortForm "tags" (.map es) defaults).build .initial = .ok c ∧
      c.values = ["a"] ∧ c.setting .combine = .bool true ∧ c.setting .field = "tag" := by
  intro es defaults merged
  have made : ((Construction.ofConfig (.map merged)).build .initial).map (fun c =>
      (c.values, c.setting .combine, c.setting .field)) = .ok (["a"], .bool true, "tag") := by
    decide +kernel
  obtain ⟨c, valid, facts⟩ := Outcome.map_eq_ok.1 made
  simp only [Prod.mk.injEq] at facts
  have config : Config.WellKeyed es := by decide +kernel
  have underneath : Config.WellKeyed defaults := by decide +kernel
  have unnamed : hasKey defaults Setting.name.key = false := by decide +kernel
  have alike : Config.SpelledAlike es defaults := by decide +kernel
  have built := (Construction.short_form_over_defaults config underneath unnamed valid).1 alike
  exact ⟨c, config, underneath, unnamed, valid, alike, built, facts⟩

/-- A default that a short form overrides under another spelling is not overridden. -/
theorem Construction.short_form_refused_for_spelling :
    let es : Entries := [("and", .bool true)]
    let defaults : Entries := [("and_", .bool false)]
    let merged := Config.overDefaults "tags" es defaults
    Config.WellKeyed es ∧ Config.WellKeyed defaults ∧
      hasKey defaults Setting.name.key = false ∧
      ((Construction.ofConfig (.map merged)).build .initial).map (fun c => c.setting .combine)
        = .ok (.bool true) ∧
      ((Construction.ofShortForm "tags" (.map es) defaults).build .initial).map Criterion.values
        = .error (.misfit .criterion [.atKey "and_" .unknownKey]) := by
  decide +kernel

end Criteria
