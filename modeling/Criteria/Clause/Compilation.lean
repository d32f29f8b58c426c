import Criteria.Criterion.Override
import Criteria.Criterion.Summary
import Criteria.Text.Lowercase
import Criteria.Host
import Criteria.Run

/-! # Compilation of criteria

The clause that a criterion stands for.

* `Criterion.form`, `Criterion.operand` — how the field is matched, and against what;
* `Criterion.mainClause` — the clause for the values of the criterion itself;
* `Criterion.transformBounds`, `Criterion.rangeClause` — the clause of a range;
* `Criterion.clause` — the whole clause, with the override criterion for marked values.

A range ignores its values.  Any other criterion matches its own values, and if some values are
marked, the override criterion for them is compiled as well and either clause may match.
`marked_override` says that an override criterion made for unmarked values has none that are
marked, so compilation ends; `clause_eq` says what it amounts to.
-/

namespace Criteria

namespace Value

/-- The key of an entry; any other value as it is. -/
def entryKey : Value → Value
  | .map es => Entries.get es Labels.keyName
  | v => v

/-- A text in lower case; any other value as it is. -/
def lowered : Value → Value
  | .str s => .str (Text.lowercase s)
  | v => v

/-- A single item on its own, several of them as a list. -/
def collapse : List Value → Value
  | [v] => v
  | vs => .list vs

end Value

namespace Criterion

/-! ## The main clause -/

/-- How the field is matched.  A decision about combining values comes first; excluding them is for
fields that are not matched from their beginnings. -/
def form (c : Criterion) : Form :=
  match c.combination with
  | some true => .all
  | some false => .plain
  | none => if !c.flag .leading && c.exclusion == some true then .excluding else .plain

/-- What the field is matched against: the values, each entry replaced by its key unless the
criterion is single, in lower case if it is analysed, and a single one on its own. -/
def operand (c : Criterion) (vs : List Value) : Value :=
  let keys := if c.isSingle then vs else vs.map Value.entryKey
  Value.collapse (if c.flag .analyzed then keys.map Value.lowered else keys)

/-- The field of a clause, which has to be a key. -/
def clauseField (c : Criterion) : Except Fault Value :=
  if c.target.isKey then .ok c.target else .error .wrongType

/-- The clause for the values of the criterion itself. -/
def mainClause (c : Criterion) : Except Fault Clause :=
  c.clauseField.map fun field => .matching c.form field (c.operand c.unmarked)

/-! ## The clause of a range -/

/-- The transform of a criterion applied to a raw bound. -/
def applyTransform (host : Host) (c : Criterion) (raw : Value) : Run Value :=
  match c.setting .transform with
  | .transform t => do
    Run.note (.transformed t raw)
    Run.ofExcept (host.apply t raw)
  | _ => Run.fail .wrongType

/-- Raw bounds transformed one after the other; those that come out as not given are left out. -/
def transformBounds (host : Host) (c : Criterion) :
    List (Bound × Value) → Run (List (Bound × Value))
  | [] => pure []
  | (b, raw) :: rest => do
    let v ← c.applyTransform host raw
    let bounds ← transformBounds host c rest
    pure (if v.isPresent then (b, v) :: bounds else bounds)

/-- The clause of a range. -/
def rangeClause (host : Host) (c : Criterion) : Run Clause := do
  let bounds ← c.transformBounds host c.rawBounds
  -- a field that is no key is noticed only after the transforms ran
  let field ← Run.ofExcept c.clauseField
  pure (.range field bounds)

/-! ## The whole clause -/

/-- An override criterion made for unmarked values has none that are marked. -/
theorem marked_override {cs : Catalogs} {c o : Criterion}
    (h : c.override cs (.list c.marked) = .ok o) : o.marked = [] := by
  have values := values_override h
  rw [Value.items_list] at values
  rw [marked, values, List.map_eq_nil_iff, List.filter_eq_nil_iff]
  intro v hv
  obtain ⟨w, _, rfl⟩ := List.mem_map.1 hv
  simp

/-- The clause that a criterion stands for. -/
def clause (host : Host) (cs : Catalogs) (c : Criterion) : Run Clause := do
  let result ←
    if c.isRange then
      c.rangeClause host
    else do
      let main ← Run.ofExcept c.mainClause
      -- marked values go to the override criterion, which has none that are marked itself
      if _h : c.marked = [] then
        pure main
      else
        match _o : c.override cs (.list c.marked) with
        | .error fault => Run.fail fault
        | .ok o => do
          let override ← clause host cs o
          pure (.either main override)
  Run.note (.compiled c.name)
  pure result
termination_by c.marked.length
decreasing_by
  rw [marked_override (by assumption)]
  exact List.length_pos_iff.2 (by assumption)

/-- A clause in terms of the clause of the override criterion, if there is one. -/
theorem clause_eq (host : Host) (cs : Catalogs) (c : Criterion) :
    c.clause host cs = (do
      let result ←
        if c.isRange then
          c.rangeClause host
        else do
          let main ← Run.ofExcept c.mainClause
          if c.marked = [] then
            pure main
          else do
            let o ← Run.ofExcept (c.override cs (.list c.marked))
            let override ← o.clause host cs
            pure (.either main override)
      Run.note (.compiled c.name)
      pure result) := by
  rw [clause]
  split
  next => rfl
  next =>
    congr 1
    funext main
    split
    next => rfl
    next =>
      split
      next fault h => rw [h]; rfl
      next o h => rw [h]; rfl

end Criterion

end Criteria
