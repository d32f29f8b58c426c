import Criteria.Proofs.Config.Attributes
import Criteria.Proofs.Criterion.Evolution

/-! # What override criteria inherit

An override criterion takes four settings from its parent unless its own configuration has them, and
nothing else.

* `Criterion.descend` — the override criterion of an override criterion, and so on;
* `Config.innermost?` — what the innermost of some override configurations says;
* `Criterion.Overridden` — an override criterion in terms of its parent and its configuration.

What is true of one level (`override_overridden`) adds up along the chain of configurations: an
inherited setting comes from the innermost configuration that has it, and every other setting from
the configuration of the last level alone.
-/

namespace Criteria

open Entries

/-- What the innermost of some override configurations, the outermost of which comes first, gives at
a key. -/
def Config.innermost? (specs : List Entries) (k : String) : Option Value :=
  specs.reverse.findSome? fun spec => get? spec (.str k)

theorem Config.innermost?_cons (spec : Entries) (specs : List Entries) (k : String) :
    innermost? (spec :: specs) k = (innermost? specs k).or (get? spec (.str k)) := by
  rw [innermost?, List.reverse_cons, List.findSome?_append, List.findSome?_singleton, innermost?]

theorem Setting.plain_of_inherited {s : Setting} (inherits : s ∈ inherited) :
    s.alias? = none ∧ s.key ≠ Setting.single.key ∧ s.shape ∈ Shape.verbatim := by
  revert s
  decide

namespace Criterion

/-- The override criterion that is reached level by level, for a list of values at each level. -/
def descend (cs : Catalogs) (c : Criterion) : List (List Value) → Except Fault Criterion
  | [] => .ok c
  | values :: lists => do
    let o ← c.override cs (.list values)
    descend cs o lists

/-- An override criterion `o` for some values, by its parent and the configuration of the override:
what it inherits, what it takes from that configuration, and the chain that goes on from there. -/
structure Overridden (c : Criterion) (spec : Entries) (values : List Value) (o : Criterion) :
    Prop where
  inherited : ∀ s ∈ Setting.inherited, o.setting s = (get? spec s.key).getD (c.setting s)
  values : o.values = values
  single : o.setting .name = .str keywordsName → o.setting .single = .bool true
  own : ∀ s ∉ Setting.inherited, (s = .single → o.setting .name ≠ .str keywordsName) →
    match s.given? spec with
    | some v => s.readValue v = .ok (o.setting s)
    | none => o.setting s = s.default
  chain : (o.setting .override).overrideChain = Entries.overrideChain spec

/-! ## One level -/

theorem get?_overrideConfig_of_inherited {s : Setting} (inherits : s ∈ Setting.inherited)
    (c : Criterion) (spec : Entries) (values : Value) :
    get? (c.overrideConfig spec values) (.str s.key)
      = some ((get? spec s.key).getD (c.setting s)) := by
  have underneath : get? c.inherited (.str s.key) = some (c.setting s) := by
    rw [Criterion.inherited, get?_map_key, ← Setting.inherited, if_pos inherits]
  rw [overrideConfig, get?_insert_of_ne _ s.key_ne_valuesKey.symm, get?_overlay, underneath]
  cases get? spec (.str s.key) <;> rfl

theorem get?_inherited_of_own {s : Setting} (own : s ∉ Setting.inherited) {k : String}
    (spelled : k ∈ s.spellings) (c : Criterion) : get? c.inherited (.str k) = none := by
  rw [Criterion.inherited, get?_map_spelled Setting.key_mem_spellings _ _ spelled,
    if_neg fun both => own both.1]

theorem given?_overrideConfig {s : Setting} (own : s ∉ Setting.inherited) (c : Criterion)
    (spec : Entries) (values : Value) :
    s.given? (c.overrideConfig spec values) = s.given? spec := by
  refine Setting.given?_congr fun k spelled => ?_
  have notValues : valuesKey ≠ k := by
    rintro rfl
    exact s.valuesKey_not_mem_spellings spelled
  rw [overrideConfig, get?_insert_of_ne _ notValues, get?_overlay,
    get?_inherited_of_own own spelled, Option.or_none]

theorem override_overridden {cs : Catalogs} {c : Criterion} {spec : Entries}
    (constructed : Constructed cs c) (holds : c.setting .override = .map spec)
    (values : List Value) :
    ∃ o, c.override cs (.list values) = .ok o ∧ c.Overridden spec values o := by
  obtain ⟨es, accepted⟩ := constructed.accepted
  obtain ⟨o, made⟩ := override_accepted accepted (.list values)
  have built : ofEntries cs (c.overrideConfig spec (.list values)) = .ok o :=
    (override_of_map holds _).symm.trans made
  have reads := (ofEntries_eq_ok.1 built).1
  have specifies := Config.read_eq_ok_iff_specifies.1 reads
  have name : get (c.overrideConfig spec (.list values)) Setting.name.key = o.setting .name := by
    rw [Config.setting_of_read reads (s := .name) rfl (by decide) (by decide), Entries.get,
      get?_overrideConfig_of_inherited (by decide)]
    rfl
  refine ⟨o, made, ?_, values_override made, fun keywords => ?_, fun s own free => ?_, ?_⟩
  · intro s inherits
    obtain ⟨plain, other, asIs⟩ := Setting.plain_of_inherited inherits
    rw [Config.setting_of_read reads plain other asIs, get?_overrideConfig_of_inherited inherits]
    rfl
  · have sets := specifies.sets .single
    rwa [Config.Sets, if_pos ⟨rfl, name.trans keywords⟩] at sets
  · have sets := specifies.sets s
    rw [Config.Sets, if_neg fun both => free both.1 (name.symm.trans both.2),
      given?_overrideConfig own] at sets
    cases given : s.given? spec with
    | some v => rwa [given] at sets
    | none =>
      rw [given] at sets
      exact sets.2
  · rw [Config.setting_override_of_read reads, ← Entries.overrideChain_eq,
      overrideChain_overrideConfig]

/-! ## All levels -/

theorem Typed.override_of_chain {c : Criterion} (typed : c.Typed) {spec : Entries}
    {deeper : List Entries} (chain : (c.setting .override).overrideChain = spec :: deeper) :
    c.setting .override = .map spec ∧ Entries.overrideChain spec = deeper := by
  rcases typed.override with isNull | ⟨es, isMap⟩
  · rw [isNull] at chain
    cases chain
  · rw [isMap] at chain ⊢
    obtain ⟨rfl, rest⟩ := List.cons.inj chain
    exact ⟨rfl, rest⟩

/-- At every level of its overrides a constructed criterion has an override criterion for all
values.  The name, the transform, the catalog and the engine of that criterion come from the
innermost configuration so far that has them, be it null, or else from the criterion itself.  All
its other settings come from the configuration of its own level, or are the defaults. -/
theorem descend_inherits {cs : Catalogs} {c : Criterion} (constructed : Constructed cs c)
    {outer deeper : List Entries} {spec : Entries}
    (chain : (c.setting .override).overrideChain = outer ++ spec :: deeper)
    {lists : List (List Value)} (levels : lists.length = outer.length) (values : List Value) :
    ∃ o, c.descend cs (lists ++ [values]) = .ok o ∧
      (∀ s ∈ [Setting.name, .transform, .catalog, .engine],
        o.setting s = (Config.innermost? (outer ++ [spec]) s.key).getD (c.setting s)) ∧
      o.values = values ∧
      (o.setting .name = .str keywordsName → o.setting .single = .bool true) ∧
      ∀ s ∉ [Setting.name, .transform, .catalog, .engine],
        (s = .single → o.setting .name ≠ .str keywordsName) →
          match s.given? spec with
          | some v => s.readValue v = .ok (o.setting s)
          | none => o.setting s = s.default := by
  induction outer generalizing c lists with
  | nil =>
    obtain rfl := List.length_eq_zero_iff.1 levels
    obtain ⟨holds, _⟩ := constructed.typed.override_of_chain chain
    obtain ⟨o, made, overridden⟩ := override_overridden constructed holds values
    refine ⟨o, Outcome.bind_eq_ok.2 ⟨o, made, rfl⟩, fun s inherits => ?_, overridden.values,
      overridden.single, overridden.own⟩
    rw [List.nil_append, Config.innermost?_cons]
    exact overridden.inherited s inherits
  | cons first rest inductionHypothesis =>
    obtain ⟨list, lists, rfl⟩ := List.exists_cons_of_length_eq_add_one levels
    obtain ⟨holds, next⟩ := constructed.typed.override_of_chain chain
    obtain ⟨o₁, made, overridden⟩ := override_overridden constructed holds list
    obtain ⟨o, descends, inherited, others⟩ := inductionHypothesis (.nested made)
      (overridden.chain.trans next) (Nat.succ.inj levels)
    refine ⟨o, Outcome.bind_eq_ok.2 ⟨o₁, made, descends⟩, fun s inherits => ?_, others⟩
    rw [inherited s inherits, overridden.inherited s inherits, List.cons_append,
      Config.innermost?_cons]
    cases Config.innermost? (rest ++ [spec]) s.key <;> rfl

/-- Two levels: a null catalog counts, a flag of the first level does not reach the second one, and
values that are configured are not used. -/
theorem descend_inherits_of_nested :
    let inner : Entries := [("name", "keywords"), ("not", "yes"), ("values", .list ["y"])]
    let outer : Entries := [("resolvers", .null), ("prefix", .bool true), ("name", "author"),
      ("user_query", .map inner)]
    let config : Value := .map [("name", "company"), ("resolvers", .catalog "own"),
      ("transform", .transform (.named "plus2")), ("user_query", .map outer)]
    ∃ c o : Criterion, (Construction.ofConfig config).build .initial = .ok c ∧
      (c.setting .override).overrideChain = [outer] ++ [inner] ∧
      c.descend .initial [["1"], ["2", "3"]] = .ok o ∧
      o.values = [.str "2", .str "3"] ∧
      o.setting .name = "keywords" ∧ o.setting .single = .bool true ∧
      o.setting .catalog = .null ∧ o.setting .transform = .transform (.named "plus2") ∧
      o.setting .leading = .bool false ∧ o.setting .exclude = .bool true := by
  intro inner outer config
  have made : ((Construction.ofConfig config).build .initial).map (fun c =>
      (c.setting .override, c.setting .transform))
        = .ok (.map outer, .transform (.named "plus2")) := by
    decide +kernel
  obtain ⟨c, builds, facts⟩ := Outcome.map_eq_ok.1 made
  obtain ⟨holds, transform⟩ := Prod.mk.inj facts
  have chain : (c.setting .override).overrideChain = [outer] ++ [inner] := by
    rw [holds]
    decide +kernel
  have levels : [[Value.str "1"]].length = [outer].length := rfl
  obtain ⟨o, descends, inherited, values, single, own⟩ :=
    descend_inherits (.built builds) chain levels [.str "2", .str "3"]
  have name : o.setting .name = "keywords" := inherited .name (by decide)
  have leading : o.setting .leading = .bool false := own .leading (by decide) nofun
  have exclude := own .exclude (by decide) nofun
  exact ⟨c, o, builds, chain, descends, values, name, single name, inherited .catalog (by decide),
    (inherited .transform (by decide)).trans transform, leading, (Except.ok.inj exclude).symm⟩

end Criterion

end Criteria
