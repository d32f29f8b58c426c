import Criteria.Criterion.Setting

/-! # Criteria

A criterion is one filter of a search request.

* `Criterion` — the values it matches and its settings;
* `Criterion.set`, `Criterion.setValues` — a criterion with one attribute changed;
* `Variant` — the variants of a field, with their suffixes;
* `Criterion.baseField`, `Criterion.target` — the field it queries, without and with its variant;
* `Criterion.combination`, `Criterion.exclusion` — decisions that may not have been made;
* `Value.isMarked` — whether a value belongs to the override criterion;
* `Criterion.unmarked`, `Criterion.marked` — the values for the criterion itself and for its
  override.

A setting can be assigned any value, so what a criterion does is said for all values of its
settings: flags are read by whether they are set.
-/

namespace Criteria

/-- The key of the values of a criterion in configurations. -/
def valuesKey : String := "values"

/-- One filter of a search request: the values it matches, and what its settings hold. -/
@[ext] structure Criterion where
  values : List Value
  setting : Setting → Value

namespace Criterion

/-! ## Changing attributes -/

/-- A criterion with one setting changed. -/
def set (c : Criterion) (s : Setting) (v : Value) : Criterion where
  values := c.values
  setting := fun s' => if s' = s then v else c.setting s'

/-- A criterion with the values that `v` is read as. -/
def setValues (c : Criterion) (v : Value) : Criterion where
  values := v.items
  setting := c.setting

@[simp] theorem values_set (c : Criterion) (s : Setting) (v : Value) :
    (c.set s v).values = c.values := rfl

@[simp] theorem setting_set (c : Criterion) (s s' : Setting) (v : Value) :
    (c.set s v).setting s' = if s' = s then v else c.setting s' := rfl

@[simp] theorem values_setValues (c : Criterion) (v : Value) :
    (c.setValues v).values = v.items := rfl

@[simp] theorem setting_setValues (c : Criterion) (v : Value) :
    (c.setValues v).setting = c.setting := rfl

/-! ## Reading settings -/

/-- The name of a criterion. -/
def name (c : Criterion) : Value := c.setting .name

/-- Whether a setting is set. -/
def flag (c : Criterion) (s : Setting) : Bool := (c.setting s).truthy

/-- A decision that may not have been made. -/
def decision (c : Criterion) (s : Setting) : Option Bool :=
  if (c.setting s).isNull then none else some (c.flag s)

/-- Whether all values have to match, if that was decided. -/
def combination (c : Criterion) : Option Bool := c.decision .combine

/-- Whether the values are excluded, if that was decided. -/
def exclusion (c : Criterion) : Option Bool := c.decision .exclude

/-- Whether the criterion has one value. -/
def isSingle (c : Criterion) : Bool := c.flag .single

/-- Whether the criterion is a range. -/
def isRange (c : Criterion) : Bool := c.flag .range

end Criterion

/-! ## The field -/

/-- A variant of the field that a criterion queries. -/
inductive Variant where
  /-- The beginnings of texts. -/
  | leading
  /-- The middles of texts. -/
  | anywhere
  /-- The texts as they are analysed. -/
  | analyzed
  /-- The texts for completion while typing. -/
  | completing
deriving DecidableEq, Repr

namespace Variant

/-- All variants; of several that are set the first one counts. -/
def all : List Variant := [.leading, .anywhere, .analyzed, .completing]

/-- The setting that chooses a variant. -/
def setting : Variant → Setting
  | .leading => .leading
  | .anywhere => .anywhere
  | .analyzed => .analyzed
  | .completing => .completing

/-- The suffix of the field that holds a variant. -/
def suffix : Variant → String
  | .leading => ".text_start"
  | .anywhere => ".text_middle"
  | .analyzed => ".analyzed"
  | .completing => ".autocomplete"

end Variant

namespace Criterion

/-- The field to query, without its variant: the one that is set, or else the name. -/
def baseField (c : Criterion) : Value :=
  if c.flag .field then c.setting .field else c.name

/-- The variant that is queried, if one is set. -/
def variant? (c : Criterion) : Option Variant :=
  Variant.all.find? fun v => c.flag v.setting

/-- The field to query. -/
def target (c : Criterion) : Value :=
  match c.variant? with
  | some v => .str (c.baseField.text ++ v.suffix)
  | none => c.baseField

end Criterion

/-! ## Marked values -/

/-- The entry that marks a value for the override criterion. -/
def markerName : String := Setting.override.key

/-- Whether a value belongs to the override criterion. -/
def Value.isMarked : Value → Bool
  | .map es => (Entries.get es markerName).truthy
  | _ => false

/-- A value without its mark. -/
def Value.unmark : Value → Value
  | .map es => .map (Entries.erase es markerName)
  | v => v

namespace Criterion

/-- The values of the criterion itself. -/
def unmarked (c : Criterion) : List Value :=
  c.values.filter fun v => !v.isMarked

/-- The values of the override criterion, without their marks. -/
def marked (c : Criterion) : List Value :=
  (c.values.filter Value.isMarked).map Value.unmark

end Criterion

/-- A value is not marked once its mark is removed. -/
@[simp] theorem Value.isMarked_unmark (v : Value) : v.unmark.isMarked = false := by
  cases v with
  | map es => simp [Value.unmark, Value.isMarked, Entries.get, Entries.get?_erase]
  | _ => rfl

end Criteria
