import Criteria.Criterion.Construction
import Criteria.Proofs.Config.Validity
import Criteria.Proofs.Criterion.Nesting

/-! # Which fault a construction ends with

Several things can be wrong with a configuration at once.  Unknown label options come first, then
everything that keeps a criterion from being read, then a labeller that is not known, and at last
whatever is wrong with the configuration of the override, which is read by the same rule.

* `Config.strayOptions` — the keys of a mapping of label options that are none;
* `Config.labeller?`, `Config.catalogName` — the labeller that a configuration names, and where;
* `Config.nested` — the configuration of its override.

These are read off the entries as they are given.  `Construction.build_ofConfig` states the rule for
one level, with the construction of the override in it, so it holds at every depth.
-/

namespace Criteria

open Entries

namespace Config

/-- The keys of a mapping of label options that are no label options. -/
def strayOptions (es : Entries) : List Value :=
  match get es "lookup" with
  | .map options => (keys options).filter (· ∉ [.str "key", .str "label", .str "resolver"])
  | _ => []

/-- The labeller that a configuration names.  Without label options it names none. -/
def labeller? (es : Entries) : Option String :=
  match get es "lookup" with
  | .options o => some o.labeller
  | .map options => some (Labels.Options.labellerOf options)
  | _ => none

/-- The name of the catalog that a configuration takes its labeller from. -/
def catalogName (es : Entries) : String :=
  match get es "resolvers" with
  | .catalog name => name
  | _ => Catalogs.standardName

/-- The configuration of an override, without values: some entries come from the configuration
around it, unless `spec` has them as well. -/
def nested (es spec : Entries) : Entries :=
  let around : Entries :=
    [(.str "name", get es "name"),
      (.str "transform", (get? es "transform").getD (.transform .identity)),
      (.str "resolvers", get es "resolvers"),
      (.str "search_context", get es "search_context")]
  insert (overlay around spec) "values" (.list [])

/-! ## Unknown label options -/

theorem strayLabelKeys_eq (es : Entries) :
    strayLabelKeys es = (strayOptions es).map Value.text := by
  unfold strayLabelKeys strayOptions
  change (match get es "lookup" with | .map options => Labels.strayKeys options | _ => []) = _
  cases get es "lookup" with
  | map options =>
    simp [Labels.strayKeys, keys, List.filter_map, Function.comp_def, Labels.optionKeys]
  | _ => rfl

theorem strayLabelKeys_eq_nil {es : Entries} : strayLabelKeys es = [] ↔ strayOptions es = [] := by
  rw [strayLabelKeys_eq, List.map_eq_nil_iff]

/-! ## What a criterion takes from its configuration -/

section

variable {es : Entries} {c : Criterion} (reads : read es = .ok c)

include reads

theorem labeller?_of_read : c.labelOptions?.map Labels.Options.labeller = labeller? es := by
  rw [Criterion.labelOptions?, labeller?, Entries.get]
  cases given : get? es (.str "lookup") with
  | none =>
    rw [setting_of_absent (s := .labels) reads rfl (by decide) given]
    rfl
  | some v =>
    have value : Setting.labels.readValue v = .ok (c.setting .labels) :=
      readValue_of_read reads rfl (by decide) given
    cases v with
    | null | options o =>
      -- null and finished options are read as they are
      rw [← Except.ok.inj value]
      rfl
    | map options =>
      obtain ⟨o, accepted, same⟩ := Outcome.map_eq_ok.1 value
      rw [← same]
      exact congrArg some (Labels.Options.labeller_of_read accepted)
    | _ => cases value

theorem catalog_of_read (cs : Catalogs) : c.catalog cs = cs.get (catalogName es) := by
  have holds : c.setting .catalog = get es "resolvers" :=
    setting_of_read reads rfl (by decide) (by decide)
  rw [Criterion.catalog, Criterion.catalogName?, holds, catalogName]
  rcases (Criterion.typed_of_read reads).catalog with isNull | ⟨name, isCatalog⟩
  · rw [← holds, isNull]
    rfl
  · rw [← holds, isCatalog]
    rfl

theorem overrideConfig_of_read (spec : Entries) :
    c.overrideConfig spec (.list []) = nested es spec := by
  rw [Criterion.overrideConfig, Criterion.inherited]
  simp only [List.map_cons, List.map_nil]
  -- the four settings that are passed on are all read as they are given
  rw [setting_of_read reads rfl (by decide) (by decide),
    setting_of_read reads rfl (by decide) (by decide),
    setting_of_read reads rfl (by decide) (by decide),
    setting_of_read reads rfl (by decide) (by decide)]
  rfl

end

end Config

/-! ## Construction -/

/-- How the construction from a configuration ends, by what is wrong with the configuration.  When
nothing is wrong with it apart from the override it configures, the construction of that override
decides. -/
theorem Construction.build_ofConfig (cs : Catalogs) (es : Entries) :
    let built := (Construction.ofConfig (.map es)).build cs
    let catalog := cs.get (Config.catalogName es)
    (Config.strayOptions es ≠ [] →
      ∃ invalid, built = .error (.labelOptions invalid ["key", "label", "resolver"]) ∧
        invalid.Perm ((Config.strayOptions es).map Value.text) ∧ invalid.Pairwise (· ≤ ·)) ∧
    (Config.strayOptions es = [] → ¬ Config.Valid es →
      ∃ issues, issues ≠ [] ∧ built = .error (.misfit .criterion issues)) ∧
    (Config.strayOptions es = [] → Config.Valid es →
      ∀ name, Config.labeller? es = some name → catalog.has name = false →
        built = .error (.unknownLabeller (.str name) catalog.names)) ∧
    (Config.strayOptions es = [] → Config.Valid es →
      (∀ name, Config.labeller? es = some name → catalog.has name = true) →
        match get es "user_query" with
        | .map spec =>
          let nested := (Construction.ofConfig (.map (Config.nested es spec))).build cs
          ∃ c, built = nested.map fun _ => c
        | _ => ∃ c, built = .ok c) := by
  intro built catalog
  have isRead : built = Criterion.ofEntries cs es := rfl
  have labels : Config.strayLabelKeys es = [] ↔ Config.strayOptions es = [] :=
    Config.strayLabelKeys_eq_nil
  refine ⟨fun stray => ?_, fun noStray invalid => ?_, fun noStray valid name named unknown => ?_,
    fun noStray valid known => ?_⟩
  · have options : Text.sortWords Labels.optionKeys = ["key", "label", "resolver"] :=
      Text.sortWords_of_pairwise (by decide +kernel)
    have refused := Config.read_of_stray (mt labels.1 stray)
    rw [Fault.strayLabelOptions, Config.strayLabelKeys_eq, options] at refused
    exact ⟨_, Criterion.ofEntries_of_refused refused cs, Text.sortWords_perm _,
      Text.pairwise_sortWords _⟩
  · obtain ⟨issues, faulty, refused⟩ := Config.read_of_invalid (labels.2 noStray) invalid
    exact ⟨issues, faulty, Criterion.ofEntries_of_refused refused cs⟩
  · obtain ⟨c, reads⟩ := Config.read_of_valid (labels.2 noStray) valid
    have isNamed := (Config.labeller?_of_read reads).trans named
    obtain ⟨options, isThere, rfl⟩ := Option.map_eq_some_iff.1 isNamed
    rw [isRead, Criterion.ofEntries_of_read reads, Criterion.checkLabeller_of_named isThere,
      Config.catalog_of_read reads, unknown, if_neg nofun]
    rfl
  · obtain ⟨c, reads⟩ := Config.read_of_valid (labels.2 noStray) valid
    have found : c.checkLabeller cs = .ok () := by
      rw [Criterion.checkLabeller_eq_ok, Config.catalog_of_read reads]
      intro options isThere
      exact known _ (by rw [← Config.labeller?_of_read reads, isThere]; rfl)
    have holds : c.setting .override = get es "user_query" := Config.setting_override_of_read reads
    rw [isRead, Criterion.ofEntries_of_read reads, found, holds]
    cases get es "user_query" with
    | map spec =>
      -- the probe of the override reads the nested configuration, and gives back the criterion
      have config := Config.overrideConfig_of_read reads spec
      exact ⟨c, congrArg (fun es => (Criterion.ofEntries cs es).map fun _ => c) config⟩
    | _ => exact ⟨c, rfl⟩

/-- A labeller that the override of an override names is looked up, too. -/
example :
    let inner : Value := .map [("lookup", .map [("resolver", "companies")])]
    let config : Value := .map [("name", "company"), ("user_query", .map [("user_query", inner)])]
    ((Construction.ofConfig config).build .initial).map Criterion.values
      = .error (.unknownLabeller "companies" ["text"]) := by
  decide +kernel

end Criteria
