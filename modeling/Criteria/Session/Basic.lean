import Criteria.Session.Command
import Criteria.Fault.Report

/-! # Sessions

A session holds catalogs of labellers and criteria by identifier, and obeys commands.

* `Session` — the state; `Session.initial` — a new session;
* `Session.step` — the session after a command, and the answer;
* `Session.run` — the session after several commands, and all answers.

A command that fails changes nothing, but for three: a construction drops the criterion it replaces
before it starts, a chain of calls keeps what was done before the call that fails, and a labelling
keeps what its labeller did to the values.
-/

namespace Criteria

/-- The state of a session. -/
structure Session where
  catalogs : Catalogs
  criteria : String → Option Criterion

namespace Session

/-- A new session. -/
def initial : Session := ⟨.initial, fun _ => none⟩

/-- A session with a criterion put under an identifier, or with none there. -/
def keep (s : Session) (id : String) (c : Option Criterion) : Session where
  catalogs := s.catalogs
  criteria := fun other => if other = id then c else s.criteria other

/-- A session with one catalog changed. -/
def changeCatalog (s : Session) (name : String) (f : Catalog → Catalog) : Session where
  catalogs := s.catalogs.modify name f
  criteria := s.criteria

@[simp] theorem catalogs_keep (s : Session) (id : String) (c : Option Criterion) :
    (s.keep id c).catalogs = s.catalogs := rfl

@[simp] theorem criteria_keep (s : Session) (id other : String) (c : Option Criterion) :
    (s.keep id c).criteria other = if other = id then c else s.criteria other := rfl

/-! ## Commands on one criterion -/

/-- A command on the criterion with an identifier, if there is one. -/
def withCriterion (s : Session) (id : String) (f : Criterion → Session × Answer) :
    Session × Answer :=
  match s.criteria id with
  | some c => f c
  | none => (s, .noCriterion)

/-- A command on something given; a fault in its place is the answer. -/
def withGiven {α : Type} (s : Session) (given : Given α) (f : α → Session × Answer) :
    Session × Answer :=
  match given with
  | .ok a => f a
  | .error fault => (s, .fault fault)

/-- A session after a chain of calls on a criterion, and the answer: the criterion that the chain
has edited, which it has not once it is finished. -/
def makeCalls (host : Host) (s : Session) (id : String) (c : Criterion)
    (calls : List (Given String × Given (List Value))) : Session × Answer :=
  let (ch, failure) := (Chain.start c).run host s.catalogs calls
  (s.keep id (some ch.origin),
    match failure, ch.edited? with
    | some f, _ => .fault f
    | none, some c' => .state c'
    | none, none => .fault (.misuse .missingMember))

/-- An answer that reads a criterion. -/
def reading (s : Session) (id : String) (f : Criterion → Answer) : Session × Answer :=
  s.withCriterion id fun c => (s, f c)

/-! ## Commands on catalogs -/

/-- The names in a catalog of a session. -/
def namesOf (s : Session) (catalog : String) : Answer :=
  .names (s.catalogs.get catalog).names

/-- What a labeller loads from entries that are given. -/
def loadGiven (host : Host) (s : Session) (l : Labeller) (entries : Given Value) :
    Run (List Value) :=
  match entries with
  | .ok v => (l.load host s.catalogs v).run
  | .error f => Run.fail f

/-- A labeller made by a catalog, with what it loads. -/
def createLabeller (host : Host) (s : Session) (catalog name : String) (arguments : Entries)
    (load : Option (Given Value)) : Answer :=
  let made : Run Labeller := do
    Run.ofExcept (Construction.refuseNames ["self", "name"] arguments)
    Labeller.create host (s.catalogs.get catalog) name arguments
  match made.outcome with
  | .ok l =>
    .labeller l (l.title host) (load.map fun entries => do loadGiven host s (← made) entries)
  | .error f => .fault f

/-- The fault that a catalog knows nothing of a name. -/
def unknownName (s : Session) (catalog : String) (name : Value) : Fault :=
  let known := (s.catalogs.get catalog).names.map Value.str
  match Fault.makeUnknownLabeller name (.list known) with
  | .ok f => f
  | .error why => .misuse why

/-- What a catalog answers about a name that is no text.  It knows nothing of such a name and takes
none, and it cannot be asked about what is no key. -/
def answerMisnamed (s : Session) (catalog : String) (request : CatalogRequest) (name : Value) :
    Answer :=
  if name.isKey then
    match request with
    | .register => .fault .wrongType
    | .unregister => s.namesOf catalog
    | .has => .result (.bool false)
    | .get => .kind none
    | .resolve | .create => .fault (s.unknownName catalog name)
  else
    .fault .wrongType

/-! ## Steps -/

/-- The session after a command, and the answer. -/
def step (host : Host) (s : Session) : Command → Session × Answer
  | .construct id construction =>
    match construction.bind fun k => k.build s.catalogs with
    | .ok c => (s.keep id (some c), .state c)
    | .error f => (s.keep id none, .fault f)  -- the old criterion is gone all the same
  | .assign id member value => s.withCriterion id fun c => s.withGiven value fun v =>
    match c.assignUnder member v with
    | .ok c' => (s.keep id (some c'), .state c')
    | .error why => (s, .fault (.misuse why))
  | .setValues id value => s.withCriterion id fun c => s.withGiven value fun v =>
    (s.keep id (some (c.setValues v)), .values (c.setValues v).values)
  | .chain id calls => s.withCriterion id fun c => makeCalls host s id c calls
  | .override id values target => s.withCriterion id fun c => s.withGiven values fun v =>
    match c.override s.catalogs v with
    | .ok o => (s.keep target (some o), .state o)
    | .error f => (s, .fault f)
  | .compile id => s.reading id fun c => .clause (c.clause host s.catalogs)
  | .label id => s.withCriterion id fun c =>
    let (c', run) := c.label host s.catalogs
    (s.keep id (some c'), .labelled run c'.values)
  | .summary id => s.reading id fun c => .result c.summary
  | .isBlank id => s.reading id fun c => .result (.bool c.isBlank)
  | .needsLabels id => s.reading id fun c => .result (.bool c.needsLabels)
  | .catalog id => s.reading id fun c => .result c.catalogHandle
  | .view id => s.reading id fun c => .view c (c.clause host s.catalogs)
  | .state id => s.reading id .state
  | .dump id aliased => s.reading id fun c =>
    match c.dump aliased with
    | .ok v => .dump v
    | .error f => .fault f
  | .register catalog name kind =>
    let s' := s.changeCatalog catalog fun c => c.insert name kind
    (s', s'.namesOf catalog)
  | .unregister catalog name =>
    let s' := s.changeCatalog catalog fun c => c.erase name
    (s', s'.namesOf catalog)
  | .names catalog => (s, s.namesOf catalog)
  | .has catalog name => (s, .result (.bool ((s.catalogs.get catalog).has name)))
  | .get catalog name => (s, .kind ((s.catalogs.get catalog).get? name))
  | .resolve catalog name =>
    match (s.catalogs.get catalog).resolve name with
    | .ok kind => (s, .kind (some kind))
    | .error f => (s, .fault f)
  | .create catalog name arguments load => s.withGiven arguments fun es =>
    (s, createLabeller host s catalog name es load)
  | .misnamed catalog request name => s.withGiven name fun v =>
    (s, s.answerMisnamed catalog request v)

/-- The session after several commands, and all answers. -/
def run (host : Host) (s : Session) : List Command → Session × List Answer
  | [] => (s, [])
  | command :: commands =>
    let (s', answer) := s.step host command
    let (s'', answers) := run host s' commands
    (s'', answer :: answers)

end Session

end Criteria
