import Criteria.Decimal.Notation
import Criteria.Labels.Options

/-! # Values

What a configuration, a search document or a clause is made of.

* `Transform` — the functions a range criterion may apply to its bounds;
* `Value` — scalars, sequences and mappings, and the handles of a session's collaborators;
* `Value.truthy`, `Value.isPresent` — the two ways in which a value counts as given;
* `Value.items` — a value read as the list of values that a criterion matches;
* `Value.entries?` — the entries of a mapping.

A mapping is the list of its entries in order, and its keys are values.  Equality of values is
decidable.
-/

namespace Criteria

/-- A function that may be applied to the bounds of a range. -/
inductive Transform where
  /-- The function that changes nothing. -/
  | identity
  /-- A function known by its name. -/
  | named (name : String)
deriving DecidableEq, Repr

/-- A value of a configuration, a document or a clause. -/
inductive Value where
  | null
  | bool (b : Bool)
  | int (n : Int)
  | float (x : Decimal)
  | str (s : String)
  | list (items : List Value)
  /-- A sequence of another type than a list, which is a list only where `items` reads it. -/
  | tuple (items : List Value)
  | map (entries : List (Value × Value))
  | transform (t : Transform)
  /-- The catalog of labellers with this name. -/
  | catalog (name : String)
  /-- The search engine with this name. -/
  | engine (name : String)
  | options (o : Labels.Options)

deriving instance Repr for Value

instance : Inhabited Value := ⟨.null⟩

instance : Coe String Value := ⟨.str⟩

/-- The entries of a mapping, in order. -/
abbrev Entries := List (Value × Value)

namespace Value

/-! ## Equality -/

mutual

/-- Decides equality of two values. -/
def decEq : (a b : Value) → Decidable (a = b)
  | .null, b => match b with
    | .null => isTrue rfl
    | .bool _ | .int _ | .float _ | .str _ | .list _ | .tuple _ | .map _ | .transform _ |
      .catalog _ | .engine _ | .options _ => isFalse nofun
  | .bool a, b => match b with
    | .bool b => if h : a = b then isTrue (by rw [h]) else isFalse fun e => h (by injection e)
    | .null | .int _ | .float _ | .str _ | .list _ | .tuple _ | .map _ | .transform _ |
      .catalog _ | .engine _ | .options _ => isFalse nofun
  | .int a, b => match b with
    | .int b => if h : a = b then isTrue (by rw [h]) else isFalse fun e => h (by injection e)
    | .null | .bool _ | .float _ | .str _ | .list _ | .tuple _ | .map _ | .transform _ |
      .catalog _ | .engine _ | .options _ => isFalse nofun
  | .float a, b => match b with
    | .float b => if h : a = b then isTrue (by rw [h]) else isFalse fun e => h (by injection e)
    | .null | .bool _ | .int _ | .str _ | .list _ | .tuple _ | .map _ | .transform _ |
      .catalog _ | .engine _ | .options _ => isFalse nofun
  | .str a, b => match b with
    | .str b => if h : a = b then isTrue (by rw [h]) else isFalse fun e => h (by injection e)
    | .null | .bool _ | .int _ | .float _ | .list _ | .tuple _ | .map _ | .transform _ |
      .catalog _ | .engine _ | .options _ => isFalse nofun
  | .list a, b => match b with
    | .list b => match decEqList a b with
      | isTrue h => isTrue (by rw [h])
      | isFalse h => isFalse fun e => h (by injection e)
    | .null | .bool _ | .int _ | .float _ | .str _ | .tuple _ | .map _ | .transform _ |
      .catalog _ | .engine _ | .options _ => isFalse nofun
  | .tuple a, b => match b with
    | .tuple b => match decEqList a b with
      | isTrue h => isTrue (by rw [h])
      | isFalse h => isFalse fun e => h (by injection e)
    | .null | .bool _ | .int _ | .float _ | .str _ | .list _ | .map _ | .transform _ |
      .catalog _ | .engine _ | .options _ => isFalse nofun
  | .map a, b => match b with
    | .map b => match decEqEntries a b with
      | isTrue h => isTrue (by rw [h])
      | isFalse h => isFalse fun e => h (by injection e)
    | .null | .bool _ | .int _ | .float _ | .str _ | .list _ | .tuple _ | .transform _ |
      .catalog _ | .engine _ | .options _ => isFalse nofun
  | .transform a, b => match b with
    | .transform b => if h : a = b then isTrue (by rw [h]) else isFalse fun e => h (by injection e)
    | .null | .bool _ | .int _ | .float _ | .str _ | .list _ | .tuple _ | .map _ | .catalog
      _ | .engine _ | .options _ => isFalse nofun
  | .catalog a, b => match b with
    | .catalog b => if h : a = b then isTrue (by rw [h]) else isFalse fun e => h (by injection e)
    | .null | .bool _ | .int _ | .float _ | .str _ | .list _ | .tuple _ | .map _ |
      .transform _ | .engine _ | .options _ => isFalse nofun
  | .engine a, b => match b with
    | .engine b => if h : a = b then isTrue (by rw [h]) else isFalse fun e => h (by injection e)
    | .null | .bool _ | .int _ | .float _ | .str _ | .list _ | .tuple _ | .map _ |
      .transform _ | .catalog _ | .options _ => isFalse nofun
  | .options a, b => match b with
    | .options b => if h : a = b then isTrue (by rw [h]) else isFalse fun e => h (by injection e)
    | .null | .bool _ | .int _ | .float _ | .str _ | .list _ | .tuple _ | .map _ |
      .transform _ | .catalog _ | .engine _ => isFalse nofun

/-- Decides equality of two lists of values. -/
def decEqList : (a b : List Value) → Decidable (a = b)
  | [], [] => isTrue rfl
  | [], _ :: _ | _ :: _, [] => isFalse nofun
  | x :: xs, y :: ys => match decEq x y, decEqList xs ys with
    | isTrue h, isTrue h' => isTrue (by rw [h, h'])
    | isFalse h, _ => isFalse fun e => h (by injection e)
    | _, isFalse h => isFalse fun e => h (by injection e)

/-- Decides equality of two lists of entries. -/
def decEqEntries : (a b : List (Value × Value)) → Decidable (a = b)
  | [], [] => isTrue rfl
  | [], _ :: _ | _ :: _, [] => isFalse nofun
  | (k, v) :: xs, (k', v') :: ys => match decEq k k', decEq v v', decEqEntries xs ys with
    | isTrue h, isTrue h', isTrue h'' => isTrue (by rw [h, h', h''])
    | isFalse h, _, _ => isFalse fun e => h (by injection e with e; injection e)
    | _, isFalse h, _ => isFalse fun e => h (by injection e with e; injection e)
    | _, _, isFalse h => isFalse fun e => h (by injection e)

end

instance : DecidableEq Value := decEq

/-! ## Being given -/

/-- Whether a value counts as set: everything but null, false, zero, and what is empty. -/
def truthy : Value → Bool
  | .null => false
  | .bool b => b
  | .int n => n != 0
  | .float x => !x.isZero
  | .str s => s != ""
  | .list items => !items.isEmpty
  | .tuple items => !items.isEmpty
  | .map entries => !entries.isEmpty
  | .transform _ | .catalog _ | .engine _ | .options _ => true

/-- Whether a value is given as a bound: everything but null and false. -/
def isPresent : Value → Bool
  | .null => false
  | .bool false => false
  | _ => true

/-- Whether a value is null. -/
def isNull : Value → Bool
  | .null => true
  | _ => false

@[simp] theorem truthy_null : truthy .null = false := rfl
@[simp] theorem truthy_bool (b : Bool) : truthy (.bool b) = b := rfl
@[simp] theorem isPresent_null : isPresent .null = false := rfl
@[simp] theorem isPresent_bool (b : Bool) : isPresent (.bool b) = b := by cases b <;> rfl
@[simp] theorem isNull_null : isNull .null = true := rfl

theorem isNull_eq_true {v : Value} : v.isNull = true ↔ v = .null := by
  cases v <;> simp [isNull]

theorem isPresent_eq_false {v : Value} : v.isPresent = false ↔ v = .null ∨ v = .bool false := by
  cases v with
  | bool b => cases b <;> simp
  | _ => simp [isPresent]

/-! ## Reading a value as a sequence or a mapping -/

/-- A value read as a list of values: null is no value, a sequence its items, and anything else one
value. -/
def items : Value → List Value
  | .null => []
  | .list items => items
  | .tuple items => items
  | v => [v]

/-- The entries of a mapping. -/
def entries? : Value → Option Entries
  | .map entries => some entries
  | _ => none

/-- Whether a value is a mapping. -/
def isMap : Value → Bool
  | .map _ => true
  | _ => false

@[simp] theorem items_null : items .null = [] := rfl
@[simp] theorem items_list (vs : List Value) : items (.list vs) = vs := rfl
@[simp] theorem items_tuple (vs : List Value) : items (.tuple vs) = vs := rfl
@[simp] theorem entries?_map (es : Entries) : entries? (.map es) = some es := rfl
@[simp] theorem isMap_map (es : Entries) : isMap (.map es) = true := rfl

theorem isMap_eq_true {v : Value} : v.isMap = true ↔ ∃ es, v = .map es := by
  cases v <;> simp [isMap]

end Value

end Criteria
