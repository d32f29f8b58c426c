import Criteria.Proofs.Clause.Transforms
import Criteria.Proofs.Criterion.Defaults
import Criteria.Proofs.Criterion.Rebuilding

/-! # Ranges in the short form

The summary of a range is the mapping of its ends, and as a short form it stands for the range
again.

* `Criterion.rangeDefaults` — what the summary of a range leaves out;
* `Criterion.rangeOnly` — a range without what its clause does not depend on;
* `Criterion.range_rebuilt` — what the summary stands for compiles as the range does.

Summaries, configurations and clauses have keys of their own for the ends of a range, and an end may
have two of them in a configuration.  A summary uses the one that counts (`summaryKey_eq`).  Ends
that are null or false are in no summary, and they are not transformed either.
-/

namespace Criteria

open Entries

/-! ## The summary of a range -/

/-- An end of a range has the same key in a summary as in a configuration that uses aliases. -/
theorem Bound.summaryKey_eq (b : Bound) : b.summaryKey = (Setting.bound b).dumpKey true := by
  cases b <;> rfl

namespace Criterion

/-- The settings, apart from the ends, that the clause of a range depends on, its name and that it
is a range left aside. -/
def rangeSettings : List Setting :=
  [.field, .analyzed, .leading, .anywhere, .completing, .transform]

/-- The defaults under which the summary of a range stands for the range. -/
def rangeDefaults (c : Criterion) : Entries :=
  (.str Setting.range.key, .bool true) :: rangeSettings.map fun s => (.str s.key, c.setting s)

/-- The settings of a range that its summary, its name and the defaults give. -/
def rangeGiven (c : Criterion) : List Setting :=
  .name :: (c.ends.map fun e => .bound e.1) ++ .range :: rangeSettings

/-- A range without its values and without the settings that its clause does not depend on. -/
def rangeOnly (c : Criterion) : Criterion where
  values := []
  setting := fun s => if s ∈ c.rangeGiven then c.setting s else s.default

/-- The mapping of the ends of a range that are given. -/
def endEntries (c : Criterion) : Entries :=
  c.ends.map fun e => (.str e.1.summaryKey, e.2)

theorem mem_ends {c : Criterion} {b : Bound} {v : Value} :
    (b, v) ∈ c.ends ↔ v = c.setting (.bound b) ∧ v.isPresent = true := by
  rw [← rawBounds_eq_ends, rawBounds, List.mem_filter, List.mem_map]
  constructor
  · rintro ⟨⟨b, _, ⟨⟩⟩, present⟩
    exact ⟨rfl, present⟩
  · rintro ⟨rfl, present⟩
    exact ⟨⟨b, b.mem_all, rfl⟩, present⟩

theorem summary_of_range {c : Criterion} (ranged : c.isRange = true) (plural : c.isSingle = false) :
    c.summary = .map c.endEntries := by
  rw [summary, plural, ranged, rawBounds_eq_ends]
  rfl

theorem endEntries_eq (c : Criterion) :
    c.endEntries = (c.ends.map fun e => Setting.bound e.1).map fun s : Setting =>
      (.str (s.dumpKey true), c.setting s) := by
  rw [endEntries, List.map_map]
  refine List.map_congr_left fun e member => ?_
  rw [e.1.summaryKey_eq, (mem_ends.1 member).1]
  rfl

theorem rangeDefaults_eq {c : Criterion} (ranged : c.setting .range = .bool true) :
    c.rangeDefaults
      = (.range :: rangeSettings).map fun s : Setting => (.str s.key, c.setting s) := by
  rw [List.map_cons, ranged]
  rfl

/-! ## The range that a summary stands for -/

/-- The configuration that the short form of a range amounts to. -/
def rangeEntries (c : Criterion) : Entries :=
  insert (overlay c.rangeDefaults c.endEntries) Setting.name.key c.name

section

variable {c : Criterion} (ranged : c.setting .range = .bool true)

include ranged

theorem wellKeyed_rangeDefaults : Config.WellKeyed c.rangeDefaults := by
  rw [rangeDefaults_eq ranged]
  exact Config.wellKeyed_map_spelled Setting.key_mem_spellings _ _

theorem wellKeyed_laidEnds : Config.WellKeyed (overlay c.rangeDefaults c.endEntries) := by
  refine Config.wellKeyed_overlay (wellKeyed_rangeDefaults ranged) ?_ ?_
  · rw [endEntries_eq]
    exact Config.wellKeyed_map_spelled (Setting.dumpKey_mem_spellings true) _ _
  · rw [endEntries_eq, rangeDefaults_eq ranged]
    refine Config.spelledAlike_map_spelled (Setting.dumpKey_mem_spellings true) _ _
      Setting.key_mem_spellings _ _ fun s isEnd other => ?_
    -- no end is among the defaults
    obtain ⟨e, _, rfl⟩ := List.mem_map.1 isEnd
    simp [rangeSettings] at other

theorem given?_rangeEntries (s : Setting) :
    s.given? c.rangeEntries = if s ∈ c.rangeGiven then some (c.setting s) else none := by
  rw [rangeEntries, Config.given?_insert_name,
    Config.given?_overlay (wellKeyed_laidEnds ranged).once, endEntries_eq, rangeDefaults_eq ranged,
    Config.given?_map_spelled (Setting.dumpKey_mem_spellings true),
    Config.given?_map_spelled Setting.key_mem_spellings]
  -- the name is given apart, the ends by the summary, and everything else by the defaults
  by_cases isName : s = .name
  · simp [isName, rangeGiven, name]
  · by_cases isEnd : s ∈ c.ends.map fun e => Setting.bound e.1
    · simp [isName, isEnd, rangeGiven]
    · by_cases isDefault : s ∈ Setting.range :: rangeSettings
      · simp [isName, isEnd, isDefault, rangeGiven]
      · simp [isName, isEnd, isDefault, rangeGiven]

theorem get?_values_rangeEntries : get? c.rangeEntries valuesKey = none := by
  rw [rangeEntries, get?_insert_of_ne _ (Setting.key_ne_valuesKey _), get?_overlay, endEntries_eq,
    rangeDefaults_eq ranged, Config.get?_values_map_spelled (Setting.dumpKey_mem_spellings true),
    Config.get?_values_map_spelled Setting.key_mem_spellings]
  rfl

theorem get?_rangeEntries_of_not_given {s : Setting} (plain : s.alias? = none)
    (hidden : s ∉ c.rangeGiven) : get? c.rangeEntries s.key = none := by
  rw [← Setting.given?_of_no_alias plain, given?_rangeEntries ranged, if_neg hidden]

theorem read_rangeEntries (typed : c.Typed) (noKeywords : c.name ≠ .str keywordsName) :
    Config.read c.rangeEntries = .ok c.rangeOnly := by
  have isName : get c.rangeEntries Setting.name.key = c.name := get_insert_str _ _ _
  refine Config.read_eq_ok_iff_specifies.2 ⟨?_, ?_, ?_, fun s => ?_⟩
  · exact (Config.wellKeyed_insert_key rfl).2 (wellKeyed_laidEnds ranged)
  · rw [Config.strayLabelKeys, Entries.get, get?_rangeEntries_of_not_given ranged rfl]
    · rfl
    · simp [rangeGiven, rangeSettings]
  · rw [Entries.get, get?_values_rangeEntries ranged]
    rfl
  · rw [Config.Sets, isName, if_neg fun both => noKeywords both.2, given?_rangeEntries ranged]
    by_cases given : s ∈ c.rangeGiven
    · simp only [given, if_true, rangeOnly]
      exact Setting.readValue_of_holds (typed s)
    · simp only [given, if_false, rangeOnly, and_true]
      cases s with
      | name => exact absurd List.mem_cons_self given
      | _ => rfl

end

/-! ## Its clause -/

section

variable (c : Criterion)

theorem bound_mem_rangeGiven {b : Bound} :
    Setting.bound b ∈ c.rangeGiven ↔ (c.setting (.bound b)).isPresent = true := by
  have isEnd : Setting.bound b ∈ c.rangeGiven ↔ ∃ v, (b, v) ∈ c.ends := by
    simp [rangeGiven, rangeSettings]
  rw [isEnd]
  simp [mem_ends]

theorem setting_rangeOnly {s : Setting} (given : s ∈ c.rangeGiven) :
    c.rangeOnly.setting s = c.setting s :=
  if_pos given

theorem bound_rangeOnly (b : Bound) : c.rangeOnly.setting (.bound b)
    = if (c.setting (.bound b)).isPresent then c.setting (.bound b) else .null := by
  simp only [rangeOnly, bound_mem_rangeGiven]
  rfl

theorem ends_rangeOnly : c.rangeOnly.ends = c.ends := by
  refine congrArg (fun f => Bound.all.filterMap f) (funext fun b => ?_)
  rw [bound_rangeOnly]
  simp only [← Value.isPresent_eq_false]
  cases present : (c.setting (.bound b)).isPresent <;> simp [present]

theorem target_rangeOnly : c.rangeOnly.target = c.target := by
  have named : c.rangeOnly.name = c.name := c.setting_rangeOnly List.mem_cons_self
  have kept {s : Setting} (member : s ∈ rangeSettings) : c.rangeOnly.setting s = c.setting s :=
    c.setting_rangeOnly (by simp [rangeGiven, member])
  have base : c.rangeOnly.baseField = c.baseField := by
    rw [baseField, baseField, flag, flag, kept (by decide), named]
  have flags (v : Variant) : c.rangeOnly.flag v.setting = c.flag v.setting := by
    rw [flag, flag, kept (by cases v <;> decide)]
  rw [target, target, variant?, variant?, funext flags, base]

end

section

variable {c : Criterion} {t : Transform} (typed : c.Typed)
  (holds : c.setting .transform = .transform t) (ranged : c.isRange = true) (host : Host)
  (cs : Catalogs)

include typed holds ranged

/-- What is called for a range, by the outcome: all ends, or those up to the first call that
fails. -/
theorem log_of_range :
    (∀ clause, (c.clause host cs).outcome = .ok clause →
      (c.clause host cs).log = calls t c.ends ++ [.compiled c.name]) ∧
    ∀ fault, (c.clause host cs).outcome = .error fault →
      ∃ before e after, c.ends = before ++ e :: after ∧ host.apply t e.2 = .error fault ∧
        (c.clause host cs).log = calls t (before ++ [e]) := by
  rcases Outcome.all_ok_or_error (fun e => host.apply t e.2) c.ends with
    succeed | ⟨before, ⟨b, raw⟩, after, fault, split, succeed, raises⟩
  · rw [clause_of_range_of_ok holds ranged cs typed succeed]
    exact ⟨fun _ _ => rfl, nofun⟩
  · rw [clause_of_range_of_error holds ranged cs split succeed raises]
    refine ⟨nofun, ?_⟩
    rintro _ ⟨⟩
    exact ⟨before, (b, raw), after, split, raises, rfl⟩

/-- The clause of a range depends on its transform, its ends, its field and its name alone. -/
theorem clause_congr_of_range {d : Criterion} (typed' : d.Typed)
    (holds' : d.setting .transform = .transform t) (ranged' : d.isRange = true)
    (ends : d.ends = c.ends) (target : d.target = c.target) (name : d.name = c.name) :
    d.clause host cs = c.clause host cs := by
  -- the ends are the same, so both succeed or both stop at the same call
  rcases Outcome.all_ok_or_error (fun e => host.apply t e.2) c.ends with
    succeed | ⟨before, ⟨b, raw⟩, after, fault, split, succeed, raises⟩
  · rw [clause_of_range_of_ok holds ranged cs typed succeed,
      clause_of_range_of_ok holds' ranged' cs typed' (ends ▸ succeed), ends, target, name]
  · rw [clause_of_range_of_error holds ranged cs split succeed raises,
      clause_of_range_of_error holds' ranged' cs (ends.trans split) succeed raises]

end

/-! ## Rebuilding -/

/-- A range, however it came to be and was changed, is built again from its summary, with its name,
its field, its variant flags and its transform for defaults.  What is built is summarised and
compiled as the range is, with the same calls of the transform.  The calls are for the ends that
the summary has, in the same order, and stop early only when the transform fails. -/
theorem range_rebuilt {c : Criterion} (evolved : c.Evolved) (ranged : c.isRange = true)
    (plural : c.isSingle = false) (cs : Catalogs) :
    ∃ d t, (Construction.ofShortForm c.name c.summary c.rangeDefaults).build cs = .ok d ∧
      d.summary = c.summary ∧
      c.setting .transform = .transform t ∧
      c.summary = .map (c.ends.map fun e => (.str e.1.summaryKey, e.2)) ∧
      ∀ (host : Host) (cs' : Catalogs),
        let run := c.clause host cs'
        d.clause host cs' = run ∧
        (∀ clause, run.outcome = .ok clause → run.log = calls t c.ends ++ [.compiled c.name]) ∧
        ∀ fault, run.outcome = .error fault →
          ∃ before e after, c.ends = before ++ e :: after ∧ host.apply t e.2 = .error fault ∧
            run.log = calls t (before ++ [e]) := by
  have typed := evolved.typed
  obtain ⟨t, holds⟩ := typed.transform
  have isTrue : c.setting .range = .bool true := by
    simpa [isRange, typed.flag_iff (s := .range) rfl rfl] using ranged
  have isSummary := summary_of_range ranged plural
  have reads : Config.read c.rangeEntries = .ok c.rangeOnly := by
    -- under the name for keywords what is built would be single, and the range would be single too
    refine read_rangeEntries isTrue typed fun keywords => ?_
    rw [evolved.single_of_keywords keywords] at plural
    cases plural
  have kept {s : Setting} (given : s ∈ c.rangeGiven) := c.setting_rangeOnly given
  have ranged' : c.rangeOnly.isRange = true := by
    rw [isRange, flag, kept (by simp [rangeGiven]), isTrue]
    rfl
  have plural' : c.rangeOnly.isSingle = false := by
    rw [isSingle, flag, rangeOnly]
    simp [rangeGiven, rangeSettings, Setting.default]
  refine ⟨c.rangeOnly, t, ?_, ?_, holds, isSummary, fun host cs' => ⟨?_, ?_⟩⟩
  · rw [isSummary, Construction.build_ofShortForm (wellKeyed_rangeDefaults isTrue) rfl]
    refine (ofEntries_of_plain ?_ ?_ cs).trans reads
    · exact get?_rangeEntries_of_not_given isTrue rfl (by simp [rangeGiven, rangeSettings])
    · exact get?_rangeEntries_of_not_given isTrue rfl (by simp [rangeGiven, rangeSettings])
  · rw [summary_of_range ranged' plural', isSummary, endEntries, endEntries, ends_rangeOnly]
  · exact clause_congr_of_range typed holds ranged host cs' (typed_of_read reads)
      ((kept (by simp [rangeGiven, rangeSettings])).trans holds) ranged' c.ends_rangeOnly
      c.target_rangeOnly (kept List.mem_cons_self)
  · exact log_of_range typed holds ranged host cs'

/-- The zero is an end of the range, and the end that is false is none. -/
theorem range_rebuilt_of_changed :
    let config : Value := .map [("name", "price"), ("query_name", "cost"), ("prefix", .bool true),
      ("from_eq", .int 0), ("from", .bool false), ("transform", .transform (.named "plus2")),
      ("values", "a"), ("not", .bool true)]
    let changes : List Change := [.edit (.bound .below (.int 9)), .setValues "b"]
    let summary : Value := .map [("from_eq", .int 0), ("to", .int 9)]
    let defaults : Entries := [("range", .bool true), ("query_name", "cost"),
      ("search_analyzed", .bool false), ("prefix", .bool true), ("any_text", .bool false),
      ("autocomplete", .bool false), ("transform", .transform (.named "plus2"))]
    ∃ c d, (Construction.ofConfig config).build .initial = .ok c ∧
      (c.changeAll changes).isRange = true ∧ (c.changeAll changes).summary = summary ∧
      (Construction.ofShortForm "price" summary defaults).build .initial = .ok d ∧
      d.summary = summary ∧
      d.clause (Stock.host []) .initial = (c.changeAll changes).clause (Stock.host []) .initial ∧
      (d.clause (Stock.host []) .initial).log = [.transformed (.named "plus2") (.int 0),
        .transformed (.named "plus2") (.int 9), .compiled "price"] := by
  intro config changes summary defaults
  have made : ((Construction.ofConfig config).build .initial).map (fun c =>
      (((c.changeAll changes).isRange, (c.changeAll changes).isSingle),
        ((c.changeAll changes).name, (c.changeAll changes).setting .transform),
        Value.map (c.changeAll changes).rangeDefaults, (c.changeAll changes).ends))
      = .ok ((true, false), ("price", .transform (.named "plus2")), .map defaults,
        [(.atLeast, .int 0), (.below, .int 9)]) := by
    decide +kernel
  have compiles : (((Construction.ofConfig config).build .initial).bind fun c =>
      ((c.changeAll changes).clause (Stock.host []) .initial).outcome)
        = .ok (.range "cost.text_start" [(.atLeast, .int 2), (.below, .int 11)]) := by
    decide +kernel
  obtain ⟨c, builds, facts⟩ := Outcome.map_eq_ok.1 made
  rw [builds] at compiles
  simp only [Prod.mk.injEq] at facts
  obtain ⟨⟨ranged, plural⟩, ⟨isName, transform⟩, isDefaults, isEnds⟩ := facts
  have evolved : (c.changeAll changes).Evolved := ⟨_, c, changes, .built builds, rfl⟩
  obtain ⟨d, t, rebuilds, again, holds, isSummary, compilesAlike⟩ :=
    range_rebuilt evolved ranged plural .initial
  cases transform.symm.trans holds
  obtain ⟨same, calls, _⟩ := compilesAlike (Stock.host []) .initial
  rw [isName, Value.map.inj isDefaults, isSummary, isEnds] at rebuilds
  rw [isSummary, isEnds] at again
  refine ⟨c, d, builds, ranged, ?_, rebuilds, again, same, ?_⟩
  · rw [isSummary, isEnds]
    rfl
  · rw [same, calls _ compiles, isEnds, isName]
    rfl

end Criterion

end Criteria
