import Criteria.Criterion.Construction
import Criteria.Criterion.Edit
import Criteria.Criterion.Labelling
import Criteria.Criterion.Members

/-! # Chains of calls

Calls by name, each on what the one before it gave.

* `Chain` — the criterion that a chain started with, and what the next call is about;
* `Chain.call` — a chain after one call;
* `Chain.run` — a chain after several calls, up to the first one that fails.

A chain starts out editing its criterion.  It may turn to a criterion of its own making, and it may
finish, after which calls are about the criterion as it is.  Whatever was changed before a call
fails stays changed.
-/

namespace Criteria

/-- What the next call of a chain is about. -/
inductive Stage where
  /-- A criterion that is being edited. -/
  | editing
  /-- A criterion that is finished. -/
  | finished
  /-- Something that is no criterion. -/
  | ended
deriving DecidableEq, Repr

/-- A chain of calls on the way. -/
structure Chain where
  /-- The criterion that the chain started with. -/
  origin : Criterion
  /-- The criterion that the chain has turned to, if it is not about its origin. -/
  other : Option Criterion
  stage : Stage

namespace Chain

/-! ## What a chain is about -/

/-- The chain that is about to edit a criterion. -/
def start (c : Criterion) : Chain := ⟨c, none, .editing⟩

/-- The criterion that a chain is about. -/
def current (ch : Chain) : Criterion :=
  ch.other.getD ch.origin

/-- A chain after a change of the criterion it is about. -/
def replace (ch : Chain) (c : Criterion) : Chain :=
  match ch.other with
  | some _ => { ch with other := some c }
  | none => { ch with origin := c }

/-- A chain that turns to another criterion. -/
def turnTo (ch : Chain) (c : Criterion) : Chain :=
  { ch with other := some c }

/-- A chain at another stage. -/
def enter (ch : Chain) (stage : Stage) : Chain :=
  { ch with stage := stage }

@[simp] theorem current_start (c : Criterion) : (start c).current = c := rfl

@[simp] theorem current_replace (ch : Chain) (c : Criterion) : (ch.replace c).current = c := by
  unfold replace current
  split <;> simp [*]

@[simp] theorem current_turnTo (ch : Chain) (c : Criterion) : (ch.turnTo c).current = c := rfl

@[simp] theorem origin_turnTo (ch : Chain) (c : Criterion) : (ch.turnTo c).origin = ch.origin := rfl

/-! ## Names of calls -/

/-- The names that are known while a criterion is edited and are no edits: those of calls that start
over, finish, or assign an attribute, and those of things that cannot be called. -/
def stageNames : List String :=
  ["for_name", "build", "_bound", "_condition", "__dict__", "__doc__", "__module__", "__weakref__"]

/-- The name of the call that labels a finished criterion. -/
def labelName : String := "resolve_lookup"

/-- The names of calls on a finished criterion. -/
def finishedNames : List String :=
  ["set_values", "nested", "from_config", "model_validate", "model_copy", "model_dump", "is_blank",
    "requires_lookup", "serialize", "compile", labelName]

/-- Whether there is something to call by a name. -/
def knows (ch : Chain) (name : String) : Bool :=
  match ch.stage with
  | .editing => stageNames.contains name || Edit.ofCall.names.contains name
  | .finished => finishedNames.contains name || (ch.current.member? name).isSome
  | .ended => false

/-! ## Calls -/

/-- A chain after something that gives a new one or fails, and the failure. -/
def after (ch : Chain) : Except Fault Chain → Chain × Option Fault
  | .ok ch' => (ch', none)
  | .error f => (ch, some f)

/-- A chain after its criterion was made a range and had an attribute assigned.  It stays a range
when the attribute cannot be assigned. -/
def assignInRange (ch : Chain) (name v : Value) : Chain × Option Fault :=
  let ranged := ch.replace (ch.current.set .range (.bool true))
  ranged.after (((ranged.current.assignUnder name v).mapError .misuse).map ranged.replace)

/-- A chain after a call while its criterion is edited. -/
def callEditing (cs : Catalogs) (ch : Chain) (name : String) (arguments : List Value) :
    Chain × Option Fault :=
  match name, arguments with
  | "for_name", [v] => ch.after (((Construction.toEdit v (.map [])).build cs).map ch.turnTo)
  | "build", [] => (ch.enter .finished, none)
  | "_bound", [member, v] => ch.assignInRange member v
  | _, _ => match Edit.ofCall name arguments with
    | .ok e => (ch.replace (ch.current.edit e), none)
    | .error _ => (ch, some .wrongType)

/-- Calls an attribute, which has to hold a function. -/
def callMember (host : Host) (ch : Chain) (name : String) (arguments : List Value) :
    Except Fault Chain :=
  match ch.current.member? name, arguments with
  | some (.transform t), [v] => (host.apply t v).map fun _ => ch.enter .ended
  | _, _ => .error .wrongType

/-- A chain after its finished criterion was labelled.  What the labeller did to the values stays
when the labelling fails. -/
def callLabel (host : Host) (cs : Catalogs) (ch : Chain) : Chain × Option Fault :=
  let (c, run) := ch.current.label host cs
  let labelled := ch.replace c
  labelled.after (run.outcome.map fun _ => labelled.enter .ended)

/-- A chain after another call on a finished criterion. -/
def callFinished (host : Host) (cs : Catalogs) (ch : Chain) (name : String)
    (arguments : List Value) : Except Fault Chain :=
  match name, arguments with
  | "set_values", [v] => .ok ((ch.replace (ch.current.setValues v)).enter .ended)
  | "nested", [v] => (ch.current.override cs v).map ch.turnTo
  | "from_config", [v, config] => ((Construction.ofShortForm v config []).build cs).map ch.turnTo
  | "model_validate", [config] => ((Construction.ofConfig config).build cs).map ch.turnTo
  | "model_copy", [] => .ok (ch.turnTo ch.current)
  | "model_dump", [] => (ch.current.dump false).map fun _ => ch.enter .ended
  | "is_blank", [] | "requires_lookup", [] | "serialize", [] => .ok (ch.enter .ended)
  | "compile", [] => (ch.current.clause host cs).outcome.map fun _ => ch.enter .ended
  | _, _ => callMember host ch name arguments

/-- A chain after a call, and the failure if it fails.  The name is looked at first, and then the
arguments. -/
def call (host : Host) (cs : Catalogs) (ch : Chain) (name : String)
    (arguments : Given (List Value)) : Chain × Option Fault :=
  if ch.knows name then
    match arguments, ch.stage with
    | .error f, _ => (ch, some f)
    | .ok vs, .editing => callEditing cs ch name vs
    | .ok vs, _ =>
      if name = labelName ∧ vs = [] then callLabel host cs ch
      else ch.after (callFinished host cs ch name vs)
  else
    (ch, some (.misuse .missingMember))

/-- A chain after calls up to the first one that fails, and that failure. -/
def run (host : Host) (cs : Catalogs) (ch : Chain) :
    List (Given String × Given (List Value)) → Chain × Option Fault
  | [] => (ch, none)
  | (.error f, _) :: _ => (ch, some f)
  | (.ok name, arguments) :: calls => match ch.call host cs name arguments with
    | (ch', none) => run host cs ch' calls
    | (ch', some f) => (ch', some f)

/-- The criterion that a chain has edited; none once it is finished. -/
def edited? (ch : Chain) : Option Criterion :=
  match ch.stage with
  | .editing => some ch.current
  | _ => none

end Chain

end Criteria
