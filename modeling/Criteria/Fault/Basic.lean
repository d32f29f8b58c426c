import Criteria.Fault.Issue
import Criteria.Value.Spelling

/-! # Faults

Every way in which an operation on criteria can fail.

* `Fault` — the faults, each with what caused it;
* `Fault.strayLabelOptions`, `Fault.noSuchLabeller` — faults that list names in order;
* `Fault.Family` — the family of faults that carry a message and details, and its branches;
* `Given` — something that may turn out to be a fault when it is looked at.

The names that a fault lists are sorted when it is made, so it does not depend on the order in
which they were found.
-/

namespace Criteria

/-- Why labels could not be put on values. -/
inductive LabellingProblem where
  /-- Labels are sought, and there is no engine to search with. -/
  | noEngine
  /-- A labeller gave back another number of entries than it was given. -/
  | countMismatch (labeller : String) (returned expected : Nat)
  /-- A reason in words of its own. -/
  | stated (message : Value)
deriving DecidableEq, Repr

/-- A way to fail. -/
inductive Fault where
  /-- A fault of a criterion, with its arguments. -/
  | general (arguments : List Value)
  /-- A fault of a configuration, with its arguments. -/
  | configuration (arguments : List Value)
  /-- Label options with keys that are not known. -/
  | labelOptions (invalid valid : List String)
  /-- A labeller that is not in the catalog. -/
  | unknownLabeller (name : Value) (known : List String)
  /-- Labels that could not be put on the values of a criterion. -/
  | labelling (problem : LabellingProblem) (criterion : Value)
  /-- A configuration that does not fit its model. -/
  | misfit (model : Model) (issues : List Issue)
  /-- A failure that a collaborator reports. -/
  | raised (message : String)
  /-- A value that cannot be used as asked. -/
  | misuse (why : Misuse)
deriving DecidableEq, Repr

/-- Something that is given, or the fault that it cannot be made as described. -/
abbrev Given (α : Type) := Except Fault α

namespace Fault

/-! ## Faults that list names -/

/-- The fault of label options with unknown keys. -/
def strayLabelOptions (invalid valid : List String) : Fault :=
  .labelOptions (Text.sortWords invalid) (Text.sortWords valid)

/-- The fault of a labeller that is not among the known ones. -/
def noSuchLabeller (name : Value) (known : List String) : Fault :=
  .unknownLabeller name (Text.sortWords known)

/-- The fault of a misused value. -/
def wrongType : Fault := .misuse .wrongType

/-! ## The family -/

/-- The branches of the family of faults that carry a message and details. -/
inductive Family where
  | general
  | configuration
  | labelOptions
  | unknownLabeller
  | labelling
deriving DecidableEq, Repr

namespace Family

/-- All branches. -/
def all : List Family :=
  [.general, .configuration, .labelOptions, .unknownLabeller, .labelling]

/-- The name of a branch. -/
def name : Family → String
  | .general => "ConditionError"
  | .configuration => "ConfigurationError"
  | .labelOptions => "LookupOptionError"
  | .unknownLabeller => "ResolverNotFoundError"
  | .labelling => "LookupResolutionError"

/-- The branch with a name. -/
def ofName? (s : String) : Option Family :=
  all.find? fun f => f.name == s

/-- The branches that a branch belongs to, itself included. -/
def bases : Family → List Family
  | .general => [.general]
  | .configuration => [.general, .configuration]
  | .labelOptions => [.general, .configuration, .labelOptions]
  | .unknownLabeller => [.general, .configuration, .unknownLabeller]
  | .labelling => [.general, .labelling]

end Family

/-- The branch of the family that a fault belongs to. -/
def family? : Fault → Option Family
  | .general _ => some .general
  | .configuration _ => some .configuration
  | .labelOptions _ _ => some .labelOptions
  | .unknownLabeller _ _ => some .unknownLabeller
  | .labelling _ _ => some .labelling
  | .misfit _ _ | .raised _ | .misuse _ => none

end Fault

end Criteria
