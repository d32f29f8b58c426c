import Criteria.Proofs.Criterion.Evolution
import Criteria.Proofs.Labels.Outcome
import Criteria.Session.Basic
import Criteria.Stock.Host
import Mathlib.Data.List.Forall2

/-! # Labels do not change clauses

A clause depends on entries by their keys and their marks alone, and putting labels on entries
leaves both as they are.

* `Value.outline` — what a clause depends on in a value, unless the criterion is single;
* `Labeller.KeepsOutlines` — a labeller that leaves and gives back entries with their outlines;
* `Criterion.clause_congr` — criteria with the same settings and outlines have the same clause.

The text labeller keeps outlines whatever a search finds (`Labeller.keepsOutlines_text`).
-/

namespace Criteria

/-! ## Outlines -/

/-- The key of a value, and whether it is marked. -/
def Value.outline (v : Value) : Value × Bool :=
  (v.entryKey, v.isMarked)

theorem Value.outline_unmark (v : Value) : v.unmark.outline = (v.outline.1, false) := by
  rw [outline, isMarked_unmark]
  cases v with
  | map es =>
    have other : Value.sameKey (.str markerName) (.str Labels.keyName) = false := by decide
    simp only [unmark, outline, entryKey, Entries.get, Entries.get?_erase, other]
    rfl
  | _ => rfl

theorem Value.outline_insert_label (es : Entries) (label : Value) :
    (Value.map (Entries.insert es Labels.labelName label)).outline = (Value.map es).outline := by
  have key : Labels.labelName ≠ Labels.keyName := by decide
  have marker : Labels.labelName ≠ markerName := by decide
  simp only [outline, entryKey, isMarked, Entries.get_insert_of_ne label key,
    Entries.get_insert_of_ne label marker]

namespace Criterion

theorem map_entryKey_unmarked (c : Criterion) :
    c.unmarked.map Value.entryKey =
      ((c.values.map Value.outline).filter fun o => !o.2).map Prod.fst := by
  rw [List.filter_map, List.map_map]
  rfl

theorem map_outline_marked (c : Criterion) :
    c.marked.map Value.outline =
      ((c.values.map Value.outline).filter Prod.snd).map fun o => (o.1, false) := by
  rw [List.filter_map, List.map_map, marked, List.map_map]
  exact List.map_congr_left fun v _ => v.outline_unmark

theorem marked_eq_nil_congr {c d : Criterion}
    (outlines : c.values.map Value.outline = d.values.map Value.outline) :
    c.marked = [] ↔ d.marked = [] := by
  rw [← List.map_eq_nil_iff (f := Value.outline), map_outline_marked, outlines,
    ← map_outline_marked, List.map_eq_nil_iff]

/-! ## Clauses -/

section

variable {c d : Criterion} (settings : c.setting = d.setting)

include settings

theorem transformBounds_congr (host : Host) (raws : List (Bound × Value)) :
    c.transformBounds host raws = d.transformBounds host raws := by
  have applied (raw : Value) : c.applyTransform host raw = d.applyTransform host raw := by
    rw [applyTransform, applyTransform, settings]
  induction raws with
  | nil => rfl
  | cons first rest inductionHypothesis =>
    simp only [transformBounds, applied, inductionHypothesis]

theorem rangeClause_congr (host : Host) : c.rangeClause host = d.rangeClause host := by
  have transformed := transformBounds_congr settings host
  obtain ⟨values, setting⟩ := c
  obtain ⟨values', setting'⟩ := d
  cases settings
  rw [rangeClause, transformed]
  rfl

/-- What a clause is made of: the settings, the main clause and the marked values. -/
theorem clause_congr_of_parts (host : Host) (cs : Catalogs) (main : c.mainClause = d.mainClause)
    (marked : c.marked = d.marked) : c.clause host cs = d.clause host cs := by
  have overrides (values : Value) : c.override cs values = d.override cs values :=
    override_congr (fun s _ => congrFun settings s) values
  have ranged : c.isRange = d.isRange := by rw [isRange, isRange, flag, flag, settings]
  have named : c.name = d.name := by rw [name, name, settings]
  rw [clause_eq, clause_eq, rangeClause_congr settings, main, marked, overrides, ranged, named]

variable (outlines : c.values.map Value.outline = d.values.map Value.outline)

include outlines

theorem mainClause_congr (plural : c.isSingle = false) : c.mainClause = d.mainClause := by
  have keys : c.unmarked.map Value.entryKey = d.unmarked.map Value.entryKey := by
    rw [map_entryKey_unmarked, map_entryKey_unmarked, outlines]
  have plural' : d.isSingle = false := by rw [← plural, isSingle, isSingle, flag, flag, settings]
  have operands : c.operand c.unmarked = d.operand d.unmarked := by
    simp only [operand, plural, plural', Bool.false_eq_true, ↓reduceIte, keys, flag, settings]
  rw [mainClause, mainClause, operands]
  obtain ⟨values, setting⟩ := c
  obtain ⟨values', setting'⟩ := d
  cases settings
  rfl

/-- Criteria without marked values. -/
theorem clause_congr_of_unmarked (host : Host) (cs : Catalogs) (plural : c.isSingle = false)
    (allOwn : c.marked = []) : c.clause host cs = d.clause host cs := by
  have allOwn' : d.marked = [] := (marked_eq_nil_congr outlines).1 allOwn
  exact clause_congr_of_parts settings host cs (mainClause_congr settings outlines plural)
    (allOwn.trans allOwn'.symm)

/-- Criteria with the same settings and outlines have the same clause, if neither they nor their
overrides are single. -/
theorem clause_congr (host : Host) (cs : Catalogs) (plural : c.isSingle = false)
    (overridePlural : ∀ o, c.override cs (.list []) = .ok o → o.isSingle = false) :
    c.clause host cs = d.clause host cs := by
  by_cases allOwn : c.marked = []
  · exact clause_congr_of_unmarked settings outlines host cs plural allOwn
  have allOwn' : d.marked ≠ [] := fun empty => allOwn ((marked_eq_nil_congr outlines).2 empty)
  have probe : d.override cs (.list []) = c.override cs (.list []) :=
    override_congr (fun s _ => congrFun settings.symm s) _
  rw [clause_eq, clause_eq, rangeClause_congr settings, mainClause_congr settings outlines plural]
  simp only [allOwn, allOwn', ↓reduceIte, isRange, flag, name, settings]
  rw [override_values cs c (.list []), override_values cs d (.list []), probe]
  cases made : c.override cs (.list []) with
  | error fault => rfl
  | ok o =>
    -- the override criteria differ in their values alone, and these have lost their marks
    have inner : (o.setValues (.list c.marked)).clause host cs
        = (o.setValues (.list d.marked)).clause host cs := by
      refine clause_congr_of_unmarked (by rfl) ?_ host cs (overridePlural o made) ?_
      · simp only [values_setValues, Value.items_list, map_outline_marked, outlines]
      · rw [marked, values_setValues, Value.items_list, List.map_eq_nil_iff,
          List.filter_eq_nil_iff]
        intro v member
        obtain ⟨w, _, rfl⟩ := List.mem_map.1 member
        simp
    simp only [Except.map, Run.ofExcept_ok_bind, inner]

end

end Criterion

/-! ## Labellers -/

/-- Mappings with the outlines of some values. -/
structure SameOutlines (values others : List Value) : Prop where
  maps : ∀ v ∈ others, v.isMap = true
  outlines : values.map Value.outline = others.map Value.outline

namespace Labeller

/-- A labeller that gives back as many mappings as it was handed with the outlines that these had,
and leaves such mappings where it writes into the list itself. -/
def KeepsOutlines (host : Host) (cs : Catalogs) (l : Labeller) : Prop :=
  ∀ values, (∀ v ∈ values, v.isMap = true) →
    let loading := l.load host cs (.list values)
    SameOutlines values loading.left.items ∧
      ∀ loaded, loading.run.outcome = .ok loaded → loaded.length = loading.left.items.length →
        SameOutlines values loaded

end Labeller

namespace Labels

theorem exists_map_of_isMap {values : List Value} (maps : ∀ v ∈ values, v.isMap = true) :
    ∃ entries : List Entries, values = entries.map .map := by
  induction values with
  | nil => exact ⟨[], rfl⟩
  | cons v values inductionHypothesis =>
    rw [List.forall_mem_cons, Value.isMap_eq_true] at maps
    obtain ⟨⟨es, rfl⟩, maps⟩ := maps
    obtain ⟨entries, rfl⟩ := inductionHypothesis maps
    exact ⟨es :: entries, rfl⟩

theorem spreadAll_map (entries : List Entries) : spreadAll (entries.map .map) = .ok entries := by
  induction entries with
  | nil => rfl
  | cons es entries inductionHypothesis =>
    rw [List.map_cons, spreadAll, Value.spread_map, inductionHypothesis]
    rfl

theorem outline_labelEntry {l : Labeller} {found : List Entries} {es labelled : Entries}
    (done : (labelEntry l found es).outcome = .ok labelled) :
    (Value.map labelled).outline = (Value.map es).outline := by
  unfold labelEntry at done
  split at done
  · dsimp only at done
    split at done
    · cases done
      exact Value.outline_insert_label es _
    · cases done
      exact Value.outline_insert_label es _
  · cases done
    rfl

theorem outlines_labelEntries {l : Labeller} {found entries : List Entries} {loaded : List Value}
    (done : (labelEntries l found entries).outcome = .ok loaded) :
    (∀ v ∈ loaded, v.isMap = true) ∧
      loaded.map Value.outline = entries.map fun es => (Value.map es).outline := by
  induction entries generalizing loaded with
  | nil =>
    cases done
    exact ⟨nofun, rfl⟩
  | cons es entries inductionHypothesis =>
    rw [labelEntries, Run.outcome_bind] at done
    obtain ⟨labelled, first, done⟩ := Outcome.bind_eq_ok.1 done
    rw [Run.outcome_bind] at done
    obtain ⟨others, rest, done⟩ := Outcome.bind_eq_ok.1 done
    cases done
    obtain ⟨maps, outlines⟩ := inductionHypothesis rest
    refine ⟨List.forall_mem_cons.2 ⟨rfl, maps⟩, ?_⟩
    rw [List.map_cons, List.map_cons, outlines, outline_labelEntry first]

theorem outlines_loadTexts {host : Host} {cs : Catalogs} {l : Labeller} {values loaded : List Value}
    (maps : ∀ v ∈ values, v.isMap = true)
    (done : (loadTexts host cs l values).outcome = .ok loaded) :
    SameOutlines values loaded := by
  obtain ⟨entries, rfl⟩ := exists_map_of_isMap maps
  rw [loadTexts, spreadAll_map, Run.ofExcept_ok_bind] at done
  split at done
  · cases done
    exact ⟨maps, rfl⟩
  · rw [Run.outcome_bind] at done
    obtain ⟨found, _, done⟩ := Outcome.bind_eq_ok.1 done
    obtain ⟨labelled, outlines⟩ := outlines_labelEntries done
    exact ⟨labelled, by rw [outlines, List.map_map]; rfl⟩

end Labels

theorem Labeller.keepsOutlines_text {host : Host} {cs : Catalogs} {l : Labeller}
    (text : l.kind = .text) : l.KeepsOutlines host cs := by
  intro values maps
  have left := left_of_builtIn (not_isCustom_of_text text) host cs (.list values)
  refine ⟨?_, fun loaded done _ => ?_⟩
  · rw [left]
    exact ⟨maps, rfl⟩
  · rw [load_text text] at done
    exact Labels.outlines_loadTexts maps done

/-! ## Runs of compilations and labellings -/

namespace Criterion

/-- A criterion as it may become when its entries are labelled. -/
structure Relabelled (c d : Criterion) : Prop extends SameOutlines c.values d.values where
  settings : c.setting = d.setting

theorem Relabelled.label {host : Host} {cs : Catalogs} {c d : Criterion}
    (relabelled : Relabelled c d)
    (keeps : ∀ l, (c.labeller host cs).outcome = .ok l → l.KeepsOutlines host cs) :
    Relabelled c (d.label host cs).1 := by
  -- whatever has the outlines of the current values has those of the first ones
  have again {values : List Value} (same : SameOutlines d.values values) :
      Relabelled c { d with values := values } :=
    ⟨⟨same.maps, relabelled.outlines.trans same.outlines⟩, relabelled.settings⟩
  have labellers : d.labeller host cs = c.labeller host cs :=
    labeller_congr fun s _ => congrFun relabelled.settings.symm s
  have ends := d.labelsTo_label host cs
  generalize d.label host cs = result at ends
  cases ends with
  | kept | unmade => exact relabelled
  | failed _ made handed | miscounted _ made handed =>
    rw [labellers] at made
    subst handed
    exact again (keeps _ made d.values relabelled.maps).1
  | replaced _ made handed loads counted =>
    rw [labellers] at made
    subst handed
    exact again ((keeps _ made d.values relabelled.maps).2 _ loads counted)

end Criterion

namespace Session

/-- A session that holds a criterion as it may become when its entries are labelled. -/
def HoldsRelabelled (s : Session) (id : String) (c : Criterion) : Prop :=
  ∃ d, s.criteria id = some d ∧ c.Relabelled d

section

variable {host : Host} {s : Session} {id : String} {c : Criterion}
  (holds : s.HoldsRelabelled id c)

include holds

theorem step_label
    (keeps : ∀ l, (c.labeller host s.catalogs).outcome = .ok l →
      l.KeepsOutlines host s.catalogs) :
    (s.step host (.label id)).1.HoldsRelabelled id c ∧
      (s.step host (.label id)).1.catalogs = s.catalogs := by
  obtain ⟨d, isThere, relabelled⟩ := holds
  rw [step, withCriterion, isThere]
  exact ⟨⟨_, if_pos rfl, relabelled.label keeps⟩, rfl⟩

variable (plural : c.isSingle = false)
  (overridePlural : ∀ o, c.override s.catalogs (.list []) = .ok o → o.isSingle = false)

include plural overridePlural

theorem step_compile : s.step host (.compile id) = (s, .clause (c.clause host s.catalogs)) := by
  obtain ⟨d, isThere, relabelled⟩ := holds
  rw [step, reading, withCriterion, isThere, Criterion.clause_congr relabelled.settings
    relabelled.outlines host s.catalogs plural overridePlural]

theorem run_of_relabelled
    (keeps : ∀ l, (c.labeller host s.catalogs).outcome = .ok l →
      l.KeepsOutlines host s.catalogs)
    {commands : List Command}
    (only : ∀ command ∈ commands, command = .compile id ∨ command = .label id) :
    List.Forall₂ (fun command answer =>
        command = .compile id → answer = .clause (c.clause host s.catalogs))
      commands (s.run host commands).2 := by
  -- every step keeps the catalogs and some relabelled criterion, so the answers stay the same
  induction commands generalizing s with
  | nil => exact .nil
  | cons command commands inductionHypothesis =>
    obtain ⟨first, others⟩ := List.forall_mem_cons.1 only
    rcases first with rfl | rfl
    · rw [run, step_compile holds plural overridePlural]
      exact .cons (fun _ => rfl) (inductionHypothesis holds overridePlural keeps others)
    · obtain ⟨holds', catalogs⟩ := step_label holds keeps
      rw [run]
      refine .cons nofun ?_
      rw [← catalogs] at overridePlural keeps ⊢
      exact inductionHypothesis holds' overridePlural keeps others

end

end Session

end Criteria
