import Criteria.Clause.Compilation

/-! # Labels found by a search

The text labeller asks a search engine for the documents that its entries' keys belong to.

* `Labels.lacksLabel` — whether an entry still needs a label;
* `Labels.query` — the criterion that matches the documents of some keys;
* `Labels.find` — the label that some documents give a key;
* `Labels.loadTexts` — entries with their labels put on.

Keys are compared by their text.  Of several documents with a key the last one gives the label, and
a document without a key gives none.  An entry that has a label keeps it, and when all of them do
there is no search.
-/

namespace Criteria.Labels

/-- Whether an entry still needs a label. -/
def lacksLabel (es : Entries) : Bool :=
  !(Entries.get es labelName).truthy

/-- The keys of the entries that need a label, in order. -/
def missingKeys (entries : List Entries) : List Value :=
  (entries.filter lacksLabel).map fun es => Entries.get es keyName

/-- Values spread into mappings, one after the other. -/
def spreadAll : List Value → Except Fault (List Entries)
  | [] => .ok []
  | v :: vs => match v.spread with
    | .ok es => (spreadAll vs).map (es :: ·)
    | .error why => .error (.misuse why)

/-! ## The search -/

/-- The criterion that matches the documents of some keys. -/
def query (cs : Catalogs) (keyField : Value) (keys : List Value) : Except Fault Criterion :=
  Criterion.ofEntries cs [(.str Setting.name.key, keyField), (.str valuesKey, .list keys)]

/-- Whether a document has a key under a field. -/
def hasKey (keyField : Value) (document : Entries) : Bool :=
  !(Entries.get document keyField).isNull

/-- The documents that a labeller's engine gives for a clause. -/
def search (host : Host) (l : Labeller) (clause : Clause) : Run (List Entries) :=
  match l.engine with
  | .engine name => do
    Run.note (.searched name clause)
    Run.ofExcept (host.search name clause)
  | _ => Run.fail (.misuse .missingMember)

/-- The documents for some keys. -/
def documents (host : Host) (cs : Catalogs) (l : Labeller) (keys : List Value) :
    Run (List Entries) := do
  if l.engine.isNull then
    -- without an engine the query is not even read
    Run.fail (.labelling .noEngine l.criterion)
  else
    let c ← Run.ofExcept (query cs l.keyField keys)
    let clause ← c.clause host cs
    let found ← search host l clause
    if !l.labelField.isKey && found.any (hasKey l.keyField) then
      Run.fail .wrongType
    else
      pure found

/-! ## Putting labels on -/

/-- Whether a document belongs to a key. -/
def belongsTo (keyField key : Value) (document : Entries) : Bool :=
  hasKey keyField document && (Entries.get document keyField).text == key.text

/-- The label that some documents give a key; null when there is none. -/
def find (l : Labeller) (found : List Entries) (key : Value) : Value :=
  match found.reverse.find? (belongsTo l.keyField key) with
  | some document => Entries.get document l.labelField
  | none => .null

/-- An entry with its label put on, if it needs one. -/
def labelEntry (l : Labeller) (found : List Entries) (es : Entries) : Run Entries :=
  if lacksLabel es then do
    let key := Entries.get es keyName
    let label := find l found key
    if label.isNull then
      Run.note (.unlabelled l.labelField l.keyField key l.criterion)
    pure (Entries.insert es labelName label)
  else
    pure es

/-- Entries with their labels put on. -/
def labelEntries (l : Labeller) (found : List Entries) : List Entries → Run (List Value)
  | [] => pure []
  | es :: rest => do
    let labelled ← labelEntry l found es
    let others ← labelEntries l found rest
    pure (.map labelled :: others)

/-- Values spread into entries, with labels that a search finds put on those that need one. -/
def loadTexts (host : Host) (cs : Catalogs) (l : Labeller) (values : List Value) :
    Run (List Value) := do
  let entries ← Run.ofExcept (spreadAll values)
  if missingKeys entries = [] then
    pure (entries.map .map)
  else
    let found ← documents host cs l (missingKeys entries)
    labelEntries l found entries

end Criteria.Labels
