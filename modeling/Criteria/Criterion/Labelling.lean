import Criteria.Labels.Search

/-! # Labelling the values of a criterion

A criterion whose values are opaque entries has them labelled by the labeller it names.

* `Labeller.make`, `Labeller.create` — the labeller of a kind, or of a name;
* `Labeller.load`, `Labeller.title` — what a labeller does, and what it is called;
* `Criterion.needsLabels` — whether some entry lacks its label;
* `Criterion.labeller` — the labeller that a criterion names;
* `Criterion.leftValues` — what a labeller leaves of the values;
* `Criterion.newValues` — the labelled values;
* `Criterion.label` — the criterion afterwards, and whether its values were replaced.

The labeller is handed the very list of the criterion's values, and it has to give back as many
entries as there are in this list when it is done.  A criterion is written once, at the end, so when
anything fails it has the settings that it had, and the values that its labeller left in the list.
-/

namespace Criteria

namespace Labeller

/-- The labeller of a kind with the given arguments. -/
def make (host : Host) (kind : LabellerKind) (arguments : Entries) : Run Labeller :=
  match kind with
  | .text | .abstract => Run.ofExcept (ofArguments kind arguments)
  | .custom name => do
    let l ← host.make name arguments
    pure { l with kind := kind }

/-- The labeller with a name in a catalog, with the given arguments. -/
def create (host : Host) (c : Catalog) (name : String) (arguments : Entries) : Run Labeller := do
  let kind ← Run.ofExcept (c.resolve name)
  make host kind arguments

/-- The name that a labeller goes by in messages. -/
def title (host : Host) (l : Labeller) : String :=
  match l.kind with
  | .text => "TextLookup"
  | .abstract => "LookupResolver"
  | .custom name => host.labellerName name

/-- Entries with the labels that a labeller puts on them.  The text labeller copies the entries that
it is handed. -/
def load (host : Host) (cs : Catalogs) (l : Labeller) (entries : Value) : Loading :=
  match l.kind with
  | .text => ⟨entries, match entries.elements? with
    | some values => Labels.loadTexts host cs l values
    | none => Run.fail .wrongType⟩
  | .abstract => ⟨entries, Run.fail .wrongType⟩
  | .custom name => host.load name l entries

end Labeller

namespace Criterion

/-- Whether a value is an entry that lacks its label. -/
def lacksLabel : Value → Bool
  | .map es => Labels.lacksLabel es
  | _ => false

/-- Whether the values are entries and some of them lack their labels. -/
def needsLabels (c : Criterion) : Bool :=
  (c.values.head?.map Value.isMap).getD false && c.values.any lacksLabel

/-- The label options in force: the standard ones unless others are set. -/
def labelOptions (c : Criterion) : Except Fault Labels.Options :=
  if c.flag .labels then
    match c.labelOptions? with
    | some o => .ok o
    | none => .error (.misuse .missingMember)
  else
    .ok .standard

/-- What a criterion tells its labeller. -/
def labellerArguments (c : Criterion) (o : Labels.Options) : Entries :=
  o.arguments ++ [(.str "search_context", c.setting .engine), (.str "condition_name", c.name)]

/-- The labeller that a criterion names, taken from its catalog. -/
def labeller (host : Host) (cs : Catalogs) (c : Criterion) : Run Labeller := do
  let some _ := c.catalogName? | Run.fail (.misuse .missingMember)
  let o ← Run.ofExcept c.labelOptions
  Labeller.create host (c.catalog cs) o.labeller (c.labellerArguments o)

/-- What the labeller of a criterion leaves of the list of its values, if labels are needed and
there is a labeller. -/
def leftValues (host : Host) (cs : Catalogs) (c : Criterion) : List Value :=
  if c.needsLabels then
    match (c.labeller host cs).outcome with
    | .ok l => (l.load host cs (.list c.values)).left.items
    | .error _ => c.values
  else
    c.values

/-- The labelled values, if labels are needed. -/
def newValues (host : Host) (cs : Catalogs) (c : Criterion) : Run (Option (List Value)) := do
  if c.needsLabels then
    let l ← c.labeller host cs
    let loading := l.load host cs (.list c.values)
    let loaded ← loading.run
    -- the values are counted now, not when they were handed over
    let count := loading.left.items.length
    if loaded.length = count then
      pure (some loaded)
    else
      Run.fail (.labelling (.countMismatch (l.title host) loaded.length count) c.name)
  else
    pure none

/-- A criterion after its values were labelled, and a run that tells whether they were replaced. -/
def label (host : Host) (cs : Catalogs) (c : Criterion) : Criterion × Run Bool :=
  let run := c.newValues host cs
  match run.outcome with
  | .ok (some values) => ({ c with values := values }, ⟨run.log, .ok true⟩)
  | .ok none => (c, ⟨run.log, .ok false⟩)
  | .error fault => ({ c with values := c.leftValues host cs }, ⟨run.log, .error fault⟩)

end Criterion

end Criteria
