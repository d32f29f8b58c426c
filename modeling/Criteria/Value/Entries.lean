import Criteria.Value.Basic

/-! # Entries of a mapping

Reading and changing the entries of a mapping by key.

* `Value.isKey` — whether a value may be a key;
* `Value.keyForm` — the form in which two keys are compared;
* `Value.sameKey` — whether two keys are the same;
* `Entries.get?`, `Entries.get` — the value at a key;
* `Entries.overlay` — entries laid over others; `Entries.insert` — one entry laid over others;
* `Entries.erase` — entries without a key;
* `Entries.keys` — the keys.

A key that is laid over an equal one keeps its place, and new keys follow at the end.  A key that is
not a number is the same as no other, so nothing is ever found at it.  The lemmas `get?_overlay`,
`get?_insert` and `get?_erase` say what each change does to the value at every key.
-/

namespace Criteria

namespace Value

/-! ## Keys -/

mutual

/-- Whether a value may be a key: lists and mappings may not, wherever they occur. -/
def isKey : Value → Bool
  | .list _ | .map _ => false
  | .tuple items => areKeys items
  | _ => true

/-- Whether all items of a sequence may be keys. -/
def areKeys : List Value → Bool
  | [] => true
  | v :: vs => isKey v && areKeys vs

end

mutual

/-- The form in which keys are compared: truth values and integral numbers are integers. -/
def keyForm : Value → Value
  | .bool b => .int (if b then 1 else 0)
  | .float x => match x.integer? with
    | some n => .int n
    | none => .float x
  | .tuple items => .tuple (keyForms items)
  | v => v

/-- The forms in which the items of a sequence are compared. -/
def keyForms : List Value → List Value
  | [] => []
  | v :: vs => keyForm v :: keyForms vs

end

mutual

/-- Whether a key can be found again: not if it is, or holds, the value that is not a number. -/
def isFindable : Value → Bool
  | .float .nan => false
  | .tuple items => areFindable items
  | _ => true

/-- Whether all items of a sequence can be found again as keys. -/
def areFindable : List Value → Bool
  | [] => true
  | v :: vs => isFindable v && areFindable vs

end

/-- Whether two keys are the same. -/
def sameKey (a b : Value) : Bool :=
  a.isFindable && decide (a.keyForm = b.keyForm)

@[simp] theorem keyForm_str (s : String) : keyForm (.str s) = .str s := rfl
@[simp] theorem isFindable_str (s : String) : isFindable (.str s) = true := rfl

theorem isFindable_keyForm_float (x : Decimal) :
    (keyForm (.float x)).isFindable = (Value.float x).isFindable := by
  rw [keyForm]
  cases x with
  | nan => rw [Decimal.integer?_nan]
  | infinite negative => rw [Decimal.integer?_infinite]
  | finite negative coefficient exponent =>
    cases Decimal.integer? (.finite negative coefficient exponent) with
    | none => rfl
    | some n => simp only [isFindable]

mutual

theorem isFindable_keyForm (v : Value) : v.keyForm.isFindable = v.isFindable := by
  cases v with
  | tuple items =>
    simp only [keyForm, isFindable]
    exact areFindable_keyForms items
  | float x => exact isFindable_keyForm_float x
  | bool b => simp only [keyForm, isFindable]
  | _ => simp only [keyForm]

theorem areFindable_keyForms (vs : List Value) : areFindable (keyForms vs) = areFindable vs := by
  cases vs with
  | nil => rfl
  | cons v vs => simp only [keyForms, areFindable, isFindable_keyForm v, areFindable_keyForms vs]

end

@[simp] theorem sameKey_str (s t : String) : sameKey (.str s) (.str t) = decide (s = t) := by
  simp [sameKey]

theorem keyForm_eq_of_sameKey {a b : Value} (h : a.sameKey b = true) : a.keyForm = b.keyForm := by
  simp only [sameKey, Bool.and_eq_true, decide_eq_true_eq] at h
  exact h.2

theorem isFindable_eq_of_sameKey {a b : Value} (h : a.sameKey b = true) :
    a.isFindable = b.isFindable := by
  rw [← isFindable_keyForm a, ← isFindable_keyForm b, keyForm_eq_of_sameKey h]

theorem sameKey_congr {a b : Value} (h : a.sameKey b = true) (c : Value) :
    a.sameKey c = b.sameKey c := by
  simp only [sameKey, isFindable_eq_of_sameKey h, keyForm_eq_of_sameKey h]

theorem sameKey_comm (a b : Value) : a.sameKey b = b.sameKey a := by
  rw [Bool.eq_iff_iff]
  constructor <;> intro h
  · rw [sameKey, ← isFindable_eq_of_sameKey h, keyForm_eq_of_sameKey h]
    simp only [sameKey, Bool.and_eq_true] at h
    simp [h.1]
  · rw [sameKey, ← isFindable_eq_of_sameKey h, keyForm_eq_of_sameKey h]
    simp only [sameKey, Bool.and_eq_true] at h
    simp [h.1]

end Value

namespace Entries

/-! ## Reading -/

/-- The value at a key. -/
def get? (es : Entries) (key : Value) : Option Value :=
  (es.find? fun e => e.1.sameKey key).map (·.2)

/-- The value at a key, null when there is none. -/
def get (es : Entries) (key : Value) : Value :=
  (get? es key).getD .null

/-- The keys, in order. -/
def keys (es : Entries) : List Value :=
  es.map (·.1)

/-- Whether there is a value at a key. -/
def hasKey (es : Entries) (key : Value) : Bool :=
  es.any fun e => e.1.sameKey key

@[simp] theorem get?_nil (key : Value) : get? [] key = none := rfl

theorem get?_cons (e : Value × Value) (es : Entries) (key : Value) :
    get? (e :: es) key = if e.1.sameKey key then some e.2 else get? es key := by
  simp only [get?, List.find?_cons]
  cases e.1.sameKey key <;> simp

theorem get?_append (es fs : Entries) (key : Value) :
    get? (es ++ fs) key = (get? es key).or (get? fs key) := by
  induction es with
  | nil => simp
  | cons e es ih =>
    rw [List.cons_append, get?_cons, get?_cons, ih]
    split <;> simp

theorem isSome_get? (es : Entries) (key : Value) : (get? es key).isSome = hasKey es key := by
  induction es with
  | nil => rfl
  | cons e es ih =>
    rw [get?_cons]
    simp only [hasKey, List.any_cons] at ih ⊢
    cases e.1.sameKey key <;> simp [ih]

theorem get?_eq_none {es : Entries} {key : Value} : get? es key = none ↔ hasKey es key = false := by
  rw [← isSome_get?]
  cases get? es key <;> simp

theorem get?_congr {a b : Value} (h : a.sameKey b = true) (es : Entries) :
    get? es a = get? es b := by
  have same : ∀ k : Value, k.sameKey a = k.sameKey b := fun k => by
    simp [Value.sameKey, Value.keyForm_eq_of_sameKey h]
  simp [get?, same]

theorem hasKey_congr {a b : Value} (h : a.sameKey b = true) (es : Entries) :
    hasKey es a = hasKey es b := by
  rw [← isSome_get?, ← isSome_get?, get?_congr h]

/-! ## Laying entries over others -/

/-- The entries of `upper` laid over those of `base`: a key of both keeps its place in `base`, and
the other keys of `upper` follow at the end. -/
def overlay (base upper : Entries) : Entries :=
  base.map (fun e => (e.1, (get? upper e.1).getD e.2))
    ++ upper.filter fun e => !hasKey base e.1

/-- Entries with the value at a key replaced, or added at the end. -/
def insert (es : Entries) (key value : Value) : Entries :=
  overlay es [(key, value)]

/-- Entries without a key. -/
def erase (es : Entries) (key : Value) : Entries :=
  es.filter fun e => !e.1.sameKey key

theorem get?_map_getD (base upper : Entries) (key : Value) :
    get? (base.map fun e => (e.1, (get? upper e.1).getD e.2)) key =
      (get? base key).map fun v => (get? upper key).getD v := by
  induction base with
  | nil => rfl
  | cons e es ih =>
    rw [List.map_cons, get?_cons, get?_cons, ih]
    split
    next h => simp [get?_congr h]
    next => rfl

theorem get?_filter_not_hasKey (base upper : Entries) (key : Value) :
    get? (upper.filter fun e => !hasKey base e.1) key =
      if hasKey base key then none else get? upper key := by
  induction upper with
  | nil => simp
  | cons e es ih =>
    rw [List.filter_cons]
    cases same : e.1.sameKey key with
    | true =>
      rw [hasKey_congr same]
      cases inBase : hasKey base key <;> simp [inBase, ih, get?_cons, same]
    | false =>
      split
      · rw [get?_cons, ih, get?_cons]
        simp [same]
      · rw [ih, get?_cons]
        simp [same]

/-- The value at a key is the upper one, or else the one underneath. -/
theorem get?_overlay (base upper : Entries) (key : Value) :
    get? (overlay base upper) key = (get? upper key).or (get? base key) := by
  rw [overlay, get?_append, get?_map_getD, get?_filter_not_hasKey, ← isSome_get?]
  cases get? base key <;> cases get? upper key <;> simp

/-- An inserted value is found at its key, and every other key is as it was. -/
theorem get?_insert (es : Entries) (key value other : Value) :
    get? (insert es key value) other = if key.sameKey other then some value else get? es other := by
  rw [insert, get?_overlay, get?_cons]
  split <;> simp

/-- An erased key has no value, and every other key is as it was. -/
theorem get?_erase (es : Entries) (key other : Value) :
    get? (erase es key) other = if key.sameKey other then none else get? es other := by
  induction es with
  | nil => simp [erase]
  | cons e es ih =>
    simp only [erase, List.filter_cons] at ih ⊢
    cases same : e.1.sameKey key with
    | true =>
      rw [get?_cons, Value.sameKey_congr same]
      simp only [Bool.not_true, Bool.false_eq_true, ↓reduceIte, ih]
      split <;> rfl
    | false =>
      simp only [Bool.not_false, ↓reduceIte, get?_cons, ih]
      cases atHead : e.1.sameKey other with
      | false => rfl
      | true =>
        have differs : key.sameKey other = false := by
          rw [← same, Value.sameKey_comm, ← Value.sameKey_congr atHead]
        simp [differs]

@[simp] theorem get?_insert_str (es : Entries) (key : String) (value : Value) :
    get? (insert es (.str key) value) (.str key) = some value := by
  simp [get?_insert]

@[simp] theorem get_insert_str (es : Entries) (key : String) (value : Value) :
    get (insert es (.str key) value) (.str key) = value := by
  simp [get]

end Entries

end Criteria
