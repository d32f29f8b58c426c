import Criteria.Clause.Compilation
import Criteria.Proofs.Criterion.Nesting

/-! # Outcomes of compilation

What compilation gives, apart from its log.

* `Criterion.outcome_clause` — the outcome for a criterion, in terms of that of its override;
* `Criterion.Typed.clause_cases` — what a clause can be made of;
* `Criterion.transformedBound` — what a transform makes of an end of a range.

The field of a typed criterion is a text, so its main clause never fails
(`Typed.mainClause`), and its range clause fails only when its transform does.
-/

namespace Criteria.Criterion

/-! ## The outcome of the parts -/

/-- The outcome of a compilation: that of the range clause, or else the main clause, together with
the clause of the override criterion if values are marked. -/
theorem outcome_clause (host : Host) (cs : Catalogs) (c : Criterion) :
    (c.clause host cs).outcome =
      if c.isRange then (c.rangeClause host).outcome
      else c.mainClause.bind fun main =>
        if c.marked = [] then .ok main
        else (c.override cs (.list c.marked)).bind fun o =>
          (o.clause host cs).outcome.map (.either main) := by
  rw [clause_eq]
  dsimp only
  split
  · rw [Run.outcome_bind]
    cases (c.rangeClause host).outcome <;> rfl
  · rw [Run.outcome_bind, Run.ofExcept_outcome]
    cases c.mainClause with
    | error fault => rfl
    | ok main =>
      simp only [Except.bind]
      split
      · rfl
      · rw [Run.outcome_bind, Run.ofExcept_outcome]
        cases c.override cs (.list c.marked) with
        | error fault => rfl
        | ok o =>
          simp only [Except.bind]
          rw [Run.outcome_bind]
          cases (o.clause host cs).outcome <;> rfl

/-! ## The field -/

namespace Typed

variable {c : Criterion} (typed : c.Typed)

include typed

theorem baseField : ∃ f : String, c.baseField = .str f := by
  obtain ⟨name, isName⟩ := typed.name
  unfold Criterion.baseField
  rcases typed.field with isNull | ⟨f, isText⟩
  · rw [flag, isNull]
    exact ⟨name, isName⟩
  · split
    · exact ⟨f, isText⟩
    · exact ⟨name, isName⟩

theorem target : ∃ f : String, c.target = .str f := by
  unfold Criterion.target
  split
  · exact ⟨_, rfl⟩
  · exact typed.baseField

theorem clauseField : c.clauseField = .ok c.target := by
  obtain ⟨f, isText⟩ := typed.target
  rw [Criterion.clauseField, isText]
  rfl

theorem mainClause : c.mainClause = .ok (.matching c.form c.target (c.operand c.unmarked)) := by
  rw [Criterion.mainClause, typed.clauseField]
  rfl

end Typed

/-! ## The ends of a range -/

/-- An end of a range with what a transform makes of it; nothing when that is not given. -/
def transformedBound (host : Host) (t : Transform) (b : Bound × Value) : Option (Bound × Value) :=
  match host.apply t b.2 with
  | .ok v => if v.isPresent then some (b.1, v) else none
  | .error _ => none

section

variable {host : Host} {c : Criterion} {t : Transform} (holds : c.setting .transform = .transform t)

include holds

theorem outcome_applyTransform (raw : Value) :
    (c.applyTransform host raw).outcome = host.apply t raw := by
  rw [applyTransform, holds]
  exact Run.outcome_bind _ _

theorem outcome_transformBounds_cons (b : Bound) (raw : Value) (rest : List (Bound × Value)) :
    (c.transformBounds host ((b, raw) :: rest)).outcome =
      (host.apply t raw).bind fun v => (c.transformBounds host rest).outcome.map fun bounds =>
        if v.isPresent then (b, v) :: bounds else bounds := by
  rw [transformBounds, Run.outcome_bind, outcome_applyTransform holds]
  congr 1
  funext v
  rw [Run.outcome_bind]
  cases (c.transformBounds host rest).outcome <;> rfl

theorem transformBounds_eq_ok {raws bounds : List (Bound × Value)}
    (done : (c.transformBounds host raws).outcome = .ok bounds) :
    bounds = raws.filterMap (transformedBound host t) := by
  induction raws generalizing bounds with
  | nil => exact (Except.ok.inj done).symm
  | cons first rest inductionHypothesis =>
    obtain ⟨b, raw⟩ := first
    rw [outcome_transformBounds_cons holds] at done
    cases applied : host.apply t raw with
    | error fault => rw [applied] at done; cases done
    | ok v =>
      rw [applied] at done
      obtain ⟨others, rested, rfl⟩ := Outcome.map_eq_ok.1 done
      rw [List.filterMap_cons, ← inductionHypothesis rested]
      simp only [transformedBound, applied]
      cases v.isPresent <;> rfl

theorem transformBounds_eq_error {raws : List (Bound × Value)} {fault : Fault}
    (failed : (c.transformBounds host raws).outcome = .error fault) :
    ∃ b ∈ raws, host.apply t b.2 = .error fault := by
  induction raws with
  | nil => cases failed
  | cons first rest inductionHypothesis =>
    obtain ⟨b, raw⟩ := first
    rw [outcome_transformBounds_cons holds] at failed
    cases applied : host.apply t raw with
    | error fault' =>
      rw [applied] at failed
      cases failed
      exact ⟨_, List.mem_cons_self, applied⟩
    | ok v =>
      rw [applied] at failed
      cases rested : (c.transformBounds host rest).outcome with
      | ok bounds => simp only [Except.bind, rested] at failed; cases failed
      | error fault' =>
        simp only [Except.bind, rested] at failed
        cases failed
        obtain ⟨b, member, raised⟩ := inductionHypothesis rested
        exact ⟨b, List.mem_cons_of_mem _ member, raised⟩

end

theorem outcome_rangeClause {host : Host} {c : Criterion} (typed : c.Typed) :
    (c.rangeClause host).outcome =
      (c.transformBounds host c.rawBounds).outcome.map (.range c.target) := by
  rw [rangeClause, Run.outcome_bind]
  cases (c.transformBounds host c.rawBounds).outcome with
  | error fault => rfl
  | ok bounds =>
    simp only [Except.bind, Run.outcome_bind, Run.ofExcept_outcome, typed.clauseField]
    rfl

/-- A compilation that gives a clause gives one of a range, a main clause, or a main clause with
that of the override criterion. -/
theorem Typed.clause_cases {host : Host} {cs : Catalogs} {c : Criterion} (typed : c.Typed)
    {clause : Clause} (compiled : (c.clause host cs).outcome = .ok clause) :
    (c.isRange = true ∧ (c.rangeClause host).outcome = .ok clause) ∨
      (c.isRange = false ∧ c.marked = [] ∧
        clause = .matching c.form c.target (c.operand c.unmarked)) ∨
      (c.isRange = false ∧ c.marked ≠ [] ∧ ∃ o inner,
        c.override cs (.list c.marked) = .ok o ∧ (o.clause host cs).outcome = .ok inner ∧
        clause = .either (.matching c.form c.target (c.operand c.unmarked)) inner) := by
  rw [outcome_clause, typed.mainClause] at compiled
  cases ranged : c.isRange with
  | true =>
    rw [ranged, if_pos rfl] at compiled
    exact .inl ⟨rfl, compiled⟩
  | false =>
    rw [ranged, if_neg nofun, Except.bind] at compiled
    by_cases allOwn : c.marked = []
    · rw [if_pos allOwn] at compiled
      exact .inr (.inl ⟨rfl, allOwn, (Except.ok.inj compiled).symm⟩)
    · rw [if_neg allOwn] at compiled
      obtain ⟨o, made, compiled⟩ := Outcome.bind_eq_ok.1 compiled
      obtain ⟨inner, nested, isClause⟩ := Outcome.map_eq_ok.1 compiled
      exact .inr (.inr ⟨rfl, allOwn, o, inner, made, nested, isClause.symm⟩)

end Criteria.Criterion
