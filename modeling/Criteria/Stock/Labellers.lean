import Criteria.Labels.Labeller
import Criteria.Value.Written

/-! # Stock labellers

Ready-made kinds of labellers, by name.

* `Stock.load` — what each of them makes of entries;
* `Stock.labellerName` — what each of them is called.

Some of them break the rule that a labeller gives back as many entries as it was given.
-/

namespace Criteria.Stock

/-- The key of an entry that must have one. -/
def requiredKey (es : Entries) : Except Fault Value :=
  match Entries.get? es Labels.keyName with
  | some key => .ok key
  | none => .error (.misuse .missingKey)

/-- A mapping changed by `f`; anything else is not an entry. -/
def onEntry (f : Entries → Except Fault Value) : Value → Except Fault Value
  | .map es => f es
  | _ => .error .wrongType

/-- An entry labelled with the text of its key and a suffix. -/
def labelledBySuffix (es : Entries) : Except Fault Value :=
  (requiredKey es).map fun key =>
    .map (Entries.insert es Labels.labelName (.str (key.text ++ " - test")))

/-- An entry labelled with the members of its labeller. -/
def labelledByOptions (l : Labeller) (es : Entries) : Except Fault Value :=
  .ok (.map (Entries.insert es Labels.labelName (.map [(.str "key_field", l.keyField),
    (.str "label_field", l.labelField), (.str "search_context", l.engine),
    (.str "condition_name", l.criterion)])))

/-- One more than a number. -/
def next : Value → Except Fault Value
  | .bool b => .ok (.int (if b then 2 else 1))
  | .int n => .ok (.int (n + 1))
  | .float x => .ok (.float x.addOne)
  | _ => .error .wrongType

/-- An entry that counts how often it was seen, and gets no label. -/
def counted (es : Entries) : Except Fault Value :=
  (next ((Entries.get? es "seen").getD (.int 0))).map fun n => .map (Entries.insert es "seen" n)

/-- What each kind makes of the entries of a sequence. -/
def loadItems (kind : String) (l : Labeller) (items : List Value) : Except Fault (List Value) :=
  match kind with
  | "suffix" => items.mapM (onEntry labelledBySuffix)
  | "options" => items.mapM (onEntry (labelledByOptions l))
  | "dropping" => .ok (items.drop 1)
  | "doubling" => .ok (items ++ items)
  | "unlabelled" => items.mapM (onEntry counted)
  | "scalar" => items.mapM (onEntry requiredKey)
  | _ => .error .wrongType

/-- What each kind makes of what it is given. -/
def load (kind : String) (l : Labeller) (entries : Value) : Except Fault (List Value) :=
  if kind = "exploding" then
    .error (.raised "backend down")
  else match entries.elements? with
    | some items => loadItems kind l items
    | none => .error .wrongType

/-- The name of a kind, with a capital letter and the word for labellers. -/
def labellerName (kind : String) : String :=
  kind.capitalize ++ "Lookup"

end Criteria.Stock
