import Criteria.Value.Entries
import Criteria.Fault.Misuse

/-! # Mappings from pairs

Which values can be spread into a mapping.

* `Value.pair` — a value read as one key and its value;
* `Value.spread` — a value read as the entries of a mapping.

A mapping gives its own entries, and a sequence one entry for each item that is itself a sequence
of two.  A text is a sequence of one-character texts, and a mapping among the items is the
sequence of its keys.
-/

namespace Criteria

namespace Value

/-- A text that may be absent, as a value. -/
def ofText? : Option String → Value
  | some s => .str s
  | none => .null

/-- The three members of label options, as entries. -/
def optionEntries (o : Labels.Options) : Entries :=
  [(.str "key", ofText? o.key), (.str "label", ofText? o.label), (.str "resolver", .str o.labeller)]

/-- The items of a sequence, the characters of a text, the keys of a mapping and the members of
label options; nothing for a value that has no items. -/
def elements? : Value → Option (List Value)
  | .list items => some items
  | .tuple items => some items
  | .str s => some (s.toList.map fun c => .str (String.singleton c))
  | .map entries => some (Entries.keys entries)
  | .options o => some ((optionEntries o).map fun e => .tuple [e.1, e.2])
  | _ => none

/-- A value read as one key and its value. -/
def pair (v : Value) : Except Misuse (Value × Value) :=
  match v.elements? with
  | some [key, value] => if key.isKey then .ok (key, value) else .error .wrongType
  | some _ => .error .badValue
  | none => .error .wrongType

/-- Entries read from pairs; the last pair with a key gives its value. -/
def spreadPairs (es : Entries) : List Value → Except Misuse Entries
  | [] => .ok es
  | v :: vs => match v.pair with
    | .ok (key, value) => spreadPairs (Entries.insert es key value) vs
    | .error e => .error e

/-- A value read as the entries of a mapping. -/
def spread : Value → Except Misuse Entries
  | .map entries => .ok entries
  | v => match v.elements? with
    | some vs => spreadPairs [] vs
    | none => .error .wrongType

@[simp] theorem spread_map (es : Entries) : spread (.map es) = .ok es := rfl
@[simp] theorem spread_nil : spread (.list []) = .ok [] := rfl

end Value

end Criteria
