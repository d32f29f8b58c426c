import Criteria.Value.Entries

/-! # Clauses

One node of a search engine's boolean query.

* `Bound` — the ends of a range, with their operators;
* `Form` — the ways in which a field may be matched against an operand;
* `Clause` — a match, a range, or the choice between a main clause and an override;
* `Clause.toValue` — the mapping that a search engine is given.

A field is a value because a criterion's name may be set to anything that can be a key.
-/

namespace Criteria

/-- An end of a range. -/
inductive Bound where
  /-- The least value, itself included. -/
  | atLeast
  /-- The value that all others are above. -/
  | above
  /-- The greatest value, itself included. -/
  | atMost
  /-- The value that all others are below. -/
  | below
deriving DecidableEq, Repr

namespace Bound

/-- All ends of a range, in the order in which a clause states them. -/
def all : List Bound := [.atLeast, .above, .atMost, .below]

/-- The operator that states an end in a clause. -/
def operator : Bound → String
  | .atLeast => "gte"
  | .above => "gt"
  | .atMost => "lte"
  | .below => "lt"

theorem mem_all (b : Bound) : b ∈ all := by
  cases b <;> simp [all]

theorem nodup_all : all.Nodup := by
  decide

end Bound

/-- A way of matching a field against an operand. -/
inductive Form where
  /-- The field has the operand, or one of its items. -/
  | plain
  /-- The field has all items of the operand. -/
  | all
  /-- The field does not have the operand. -/
  | excluding
deriving DecidableEq, Repr

/-- A node of a boolean query. -/
inductive Clause where
  | matching (form : Form) (field operand : Value)
  | range (field : Value) (bounds : List (Bound × Value))
  | either (main override : Clause)
deriving DecidableEq, Repr

namespace Clause

/-- A mapping with a single entry. -/
def entry (key value : Value) : Value :=
  .map [(key, value)]

/-- The ends of a range under their operators. -/
def boundsValue (bounds : List (Bound × Value)) : Value :=
  .map (bounds.map fun b => (.str b.1.operator, b.2))

/-- The mapping that states a clause. -/
def toValue : Clause → Value
  | .matching .plain field operand => entry field operand
  | .matching .all field operand => entry field (entry (.str "all") operand)
  | .matching .excluding field operand => entry field (entry (.str "not") operand)
  | .range field bounds => entry field (boundsValue bounds)
  | .either main override => entry (.str "or") (.list [main.toValue, override.toValue])

end Clause

end Criteria
