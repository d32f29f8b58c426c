import Criteria.Proofs.Clause.Outcome
import Criteria.Proofs.Criterion.Evolution
import Criteria.Stock.Host

/-! # Compilation does not fail late

What is wrong with a configuration is found when a criterion is constructed.  Afterwards a
compilation can fail in a transform, and nowhere else.

* `Criterion.RaisesOnBound` — a range whose transform fails for one of its ends;
* `Criterion.AcceptsOverrides` — a criterion whose override criterion exists for all values;
* `Criterion.LabellersKept` — catalogs that still know the labellers of a criterion's overrides.

The override criterion is read again when a criterion is compiled, with values and perhaps catalogs
that were not there at construction.  It is accepted all the same (`override_of_kept`).
-/

namespace Criteria

namespace Criterion

/-! ## Labellers -/

/-- The labellers that the overrides of a criterion name, and that were known in some catalogs, are
known in others. -/
def LabellersKept (cs cs' : Catalogs) (c : Criterion) : Prop :=
  ∀ o, Nests cs c o → ∀ options, o.labelOptions? = some options →
    (o.catalog cs).has options.labeller = true → (o.catalog cs').has options.labeller = true

theorem LabellersKept.checkLabeller {cs cs' : Catalogs} {c o : Criterion}
    (kept : c.LabellersKept cs cs') (nests : Nests cs c o) : o.checkLabeller cs' = .ok () := by
  obtain ⟨es, accepted⟩ := nests.accepted
  have known := checkLabeller_eq_ok.1 (ofEntries_eq_ok.1 accepted).2.1
  rw [checkLabeller_eq_ok]
  intro options named
  exact kept o nests options named (known options named)

/-! ## Overrides -/

def AcceptsOverrides (cs : Catalogs) (c : Criterion) : Prop :=
  ∀ values, ∃ o, c.override cs values = .ok o

theorem override_of_kept {cs cs' : Catalogs} {es : Entries} {c : Criterion}
    (accepted : ofEntries cs es = .ok c) (kept : c.LabellersKept cs cs') :
    c.AcceptsOverrides cs' := by
  intro values
  -- what the old catalogs accept, the new ones accept as the same criterion
  obtain ⟨o, made⟩ := override_accepted accepted values
  have nests : Nests cs c o := .override made
  obtain ⟨spec, isSpec, accepted⟩ := override_eq_ok.1 made
  have still := ofEntries_of_kept accepted (kept.checkLabeller nests)
    fun o' inner => kept.checkLabeller (.of_override made inner)
  exact ⟨o, override_eq_ok.2 ⟨spec, isSpec, still⟩⟩

/-! ## Compilation -/

/-- A range whose transform fails for one of the ends that are given. -/
def RaisesOnBound (host : Host) (c : Criterion) (fault : Fault) : Prop :=
  c.isRange = true ∧ ∃ t b, c.setting .transform = .transform t ∧
    (c.setting (.bound b)).isPresent = true ∧ host.apply t (c.setting (.bound b)) = .error fault

namespace Typed

variable {c : Criterion} (typed : c.Typed)

include typed

theorem raisesOnBound {host : Host} {fault : Fault} (ranged : c.isRange = true)
    (failed : (c.rangeClause host).outcome = .error fault) : c.RaisesOnBound host fault := by
  rw [outcome_rangeClause typed] at failed
  obtain ⟨t, holds⟩ := typed.transform
  cases transformed : (c.transformBounds host c.rawBounds).outcome with
  | ok bounds =>
    rw [transformed] at failed
    cases failed
  | error fault' =>
    rw [transformed] at failed
    cases failed
    obtain ⟨b, member, raised⟩ := transformBounds_eq_error holds transformed
    obtain ⟨isBound, present⟩ := List.mem_filter.1 member
    obtain ⟨b, _, rfl⟩ := List.mem_map.1 isBound
    exact ⟨ranged, t, b, holds, present, raised⟩

/-- A compilation that fails does so on an end of a range, or when the override criterion is
made, or when that one is compiled. -/
theorem clause_eq_error {host : Host} {cs : Catalogs} {fault : Fault}
    (failed : (c.clause host cs).outcome = .error fault) :
    c.RaisesOnBound host fault ∨
      (c.isRange = false ∧ c.marked ≠ [] ∧
        (c.override cs (.list c.marked) = .error fault ∨
          ∃ o, c.override cs (.list c.marked) = .ok o ∧
            (o.clause host cs).outcome = .error fault)) := by
  rw [outcome_clause, typed.mainClause] at failed
  cases ranged : c.isRange with
  | true =>
    rw [ranged, if_pos rfl] at failed
    exact .inl (typed.raisesOnBound ranged failed)
  | false =>
    rw [ranged, if_neg nofun, Except.bind] at failed
    by_cases allOwn : c.marked = []
    · rw [if_pos allOwn] at failed
      cases failed
    · rw [if_neg allOwn] at failed
      refine .inr ⟨rfl, allOwn, ?_⟩
      cases made : c.override cs (.list c.marked) with
      | error fault' =>
        rw [made] at failed
        cases failed
        exact .inl rfl
      | ok o =>
        rw [made, Except.bind] at failed
        cases compiled : (o.clause host cs).outcome with
        | ok inner =>
          rw [compiled] at failed
          cases failed
        | error fault' =>
          rw [compiled] at failed
          cases failed
          exact .inr ⟨o, rfl, compiled⟩

end Typed

/-- However a criterion came to be and was changed, it compiles, or a transform fails for an end of
its range or of that of its override.  At every depth the override criteria are accepted with any
values. -/
theorem compiles_or_raises {cs₀ cs : Catalogs} {c₀ : Criterion} (constructed : Constructed cs₀ c₀)
    (changes : List Change) (kept : c₀.LabellersKept cs₀ cs) (host : Host) :
    let c := c₀.changeAll changes
    ((∃ clause, (c.clause host cs).outcome = .ok clause) ∨
        ∃ fault, (c.clause host cs).outcome = .error fault ∧
          (c.RaisesOnBound host fault ∨
            c.isRange = false ∧
              ∃ o, c.override cs (.list c.marked) = .ok o ∧ o.RaisesOnBound host fault)) ∧
      c.AcceptsOverrides cs ∧ ∀ o, Nests cs c o → o.AcceptsOverrides cs := by
  intro c
  obtain ⟨es, accepted⟩ := constructed.accepted
  have accepts : c.AcceptsOverrides cs := by
    intro values
    rw [override_changeAll]
    exact override_of_kept accepted kept values
  refine ⟨?_, accepts, fun o nests => ?_⟩
  · have typed : c.Typed := constructed.typed.changeAll changes
    cases compiled : (c.clause host cs).outcome with
    | ok clause => exact .inl ⟨clause, rfl⟩
    | error fault =>
      refine .inr ⟨fault, rfl, ?_⟩
      rcases typed.clause_eq_error compiled with raises | ⟨plain, _, refused | ⟨o, made, failed⟩⟩
      · exact .inl raises
      · obtain ⟨o, made⟩ := accepts (.list c.marked)
        rw [made] at refused
        cases refused
      · -- the override criterion has no marked values left, so only its own range can fail
        obtain ⟨spec, _, accepted⟩ := override_eq_ok.1 made
        have overrideTyped := typed_of_read (ofEntries_eq_ok.1 accepted).1
        rcases overrideTyped.clause_eq_error failed with raises | ⟨_, marked, _⟩
        · exact .inr ⟨plain, o, made, raises⟩
        · exact absurd (marked_override made) marked
  · obtain ⟨es, accepted⟩ := nests.accepted
    exact override_accepted accepted

theorem LabellersKept.of_insert (cs : Catalogs) (c : Criterion) (name labeller : String)
    (kind : LabellerKind) : c.LabellersKept cs (cs.modify name (·.insert labeller kind)) := by
  intro o _ options _ known
  rw [catalog, Catalogs.get_modify]
  split
  next same =>
    rw [Catalog.has_eq_isSome, Catalog.get?_insert]
    split
    · rfl
    · rw [← Catalog.has_eq_isSome, ← same]
      exact known
  next => exact known

theorem compiles_or_raises_of_marked :
    ∃ c changes, Constructed .initial c ∧
      let cs := Catalogs.initial.modify Catalogs.standardName (·.insert "upper" .text)
      c.LabellersKept .initial cs ∧
      ((c.changeAll changes).clause (Stock.host []) cs).outcome
        = .error (.raised "transform failed") ∧
      (c.changeAll changes).AcceptsOverrides cs := by
  let spec : Value := .map [("range", .bool true), ("from", .int 1), ("lookup", .map [])]
  let config : Value := .map [("name", "price"), ("transform", .transform (.named "fail")),
    ("user_query", spec)]
  let values : Value := .list [.map [("key", .int 2), ("user_query", .bool true)]]
  let changes : List Change := [.setValues values]
  let cs := Catalogs.initial.modify Catalogs.standardName (·.insert "upper" .text)
  have made : ((Construction.ofConfig config).build .initial).map (fun c =>
      ((c.changeAll changes).clause (Stock.host []) cs).outcome)
        = .ok (.error (.raised "transform failed")) := by
    decide +kernel
  obtain ⟨c, builds, failed⟩ := Outcome.map_eq_ok.1 made
  have constructed : Constructed .initial c := .built builds
  have kept : c.LabellersKept .initial cs := .of_insert _ _ _ _ _
  have safe := compiles_or_raises constructed changes kept (Stock.host [])
  exact ⟨c, changes, constructed, kept, failed, safe.2.1⟩

end Criterion

end Criteria
