import Criteria.Labels.Catalog

/-! # Labellers

A labeller puts labels on opaque entries.

* `Labeller` — a labeller ready to work, with the fields it reads and the engine it may search;
* `Labels.Options.arguments` — what label options say about a labeller;
* `Labeller.ofArguments` — the labeller of a kind with some arguments.

A labeller reads keys from `id` and labels from `text` unless it is told otherwise.
-/

namespace Criteria

/-- A labeller that is ready to work. -/
structure Labeller where
  kind : LabellerKind
  /-- The document field that holds keys. -/
  keyField : Value
  /-- The document field that holds labels. -/
  labelField : Value
  /-- The engine that documents are searched with. -/
  engine : Value
  /-- The name of the criterion whose values are labelled. -/
  criterion : Value
deriving DecidableEq, Repr

namespace Labels

/-- The entry field that holds a key. -/
def keyName : String := "key"

/-- The entry field that holds a label. -/
def labelName : String := "text"

/-- The document field that holds keys, when none is given. -/
def defaultKeyField : String := "id"

/-- The arguments for a labeller that label options give. -/
def Options.arguments (o : Options) : Entries :=
  (o.key.map fun key => (Value.str "key_field", Value.str key)).toList
    ++ (o.label.map fun label => (Value.str "label_field", Value.str label)).toList

end Labels

namespace Labeller

/-- The names of the arguments that a labeller takes. -/
def argumentNames : List Value :=
  [.str "key_field", .str "label_field", .str "search_context", .str "condition_name"]

/-- The labeller of a kind with the given arguments. -/
def ofArguments (kind : LabellerKind) (arguments : Entries) : Except Fault Labeller :=
  if kind = .abstract ∨ ¬ (arguments.all fun e => argumentNames.contains e.1) then
    .error .wrongType
  else
    .ok {
      kind := kind
      keyField := (Entries.get? arguments "key_field").getD (.str Labels.defaultKeyField)
      labelField := (Entries.get? arguments "label_field").getD (.str Labels.labelName)
      engine := Entries.get arguments "search_context"
      criterion := Entries.get arguments "condition_name" }

end Labeller

end Criteria
