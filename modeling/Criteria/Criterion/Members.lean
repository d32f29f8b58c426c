import Criteria.Criterion.Reading
import Criteria.Value.Notes

/-! # Members of a criterion

The attributes of a criterion by name.

* `Criterion.derived?` — the attributes that are derived from others;
* `Criterion.member?` — the attribute with a name;
* `Criterion.assign`, `Criterion.assignUnder` — a criterion with an attribute assigned.

An assignment takes any value, but derived attributes cannot be assigned, and neither can names that
stand for nothing.  Names of notes stand for nothing that a criterion shows.
`assign_key` and `assign_values` say what an assignment does to each attribute that there is.
-/

namespace Criteria

theorem Setting.ofKey?_key (s : Setting) : Setting.ofKey? s.key = some s := by
  cases s with
  | bound b => cases b <;> simp [ofKey?, all, key]
  | _ => simp [ofKey?, all, key]

theorem Setting.key_ne_valuesKey (s : Setting) : s.key ≠ valuesKey := by
  cases s with
  | bound b => cases b <;> simp [key, valuesKey]
  | _ => simp [key, valuesKey]

namespace Criterion

/-! ## Reading -/

/-- An attribute of a criterion that is derived from others.  What is kept about its configuration
is null. -/
def derived? (c : Criterion) : String → Option Value
  | "field_name" => some c.baseField
  | "runtime_field_name" => some c.target
  | "lookup_registry" => some c.catalogHandle
  | "model_extra" | "model_fields_set" => some .null
  | _ => none

/-- An attribute of a criterion by its name. -/
def member? (c : Criterion) (name : String) : Option Value :=
  if name = valuesKey then some (.list c.values)
  else ((Setting.ofKey? name).map c.setting).or (c.derived? name)

/-! ## Assigning -/

/-- A criterion with an attribute assigned, whatever the value. -/
def assign (c : Criterion) (name : String) (v : Value) : Except Misuse Criterion :=
  if name = valuesKey then .ok (c.setValues v)
  else match Setting.ofKey? name with
    | some s => .ok (c.set s v)
    | none =>
      if (c.derived? name).isSome then .error .missingMember
      else if Notes.isName name then (Notes.check name v).map fun _ => c
      else .error .badValue

/-- A criterion with an attribute assigned, where the name may be any value. -/
def assignUnder (c : Criterion) (name v : Value) : Except Misuse Criterion :=
  match name with
  | .str s => c.assign s v
  | _ => .error .wrongType

@[simp] theorem assign_values (c : Criterion) (v : Value) :
    c.assign valuesKey v = .ok (c.setValues v) := by
  simp [assign]

@[simp] theorem assign_key (c : Criterion) (s : Setting) (v : Value) :
    c.assign s.key v = .ok (c.set s v) := by
  simp [assign, s.key_ne_valuesKey, Setting.ofKey?_key]

end Criterion

end Criteria
