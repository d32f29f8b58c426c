/-! # Issues

What can be wrong with one part of a configuration.

* `Model` — what a configuration describes;
* `Place` — one step on the way to the part in question;
* `IssueKind` — what is wrong there, with its `code` and its `message`;
* `Issue` — a kind and the path to its part.
-/

namespace Criteria

/-- What a configuration describes. -/
inductive Model where
  | criterion
  | labelOptions
deriving DecidableEq, Repr

/-- The name of a model in reports. -/
def Model.name : Model → String
  | .criterion => "Condition"
  | .labelOptions => "LookupOptions"

/-- A step into a configuration: to the value at a key, or to an item of a sequence. -/
inductive Place where
  | key (name : String)
  | index (n : Int)
deriving DecidableEq, Repr

/-- What can be wrong with a part of a configuration. -/
inductive IssueKind where
  /-- A key that is needed is not there. -/
  | missing
  /-- A text is needed. -/
  | notText
  /-- A truth value is needed, and this text or number denotes none. -/
  | unreadableFlag
  /-- A truth value is needed, and nothing of this type denotes one. -/
  | notFlag
  /-- A sequence is needed. -/
  | notSequence
  /-- A mapping is needed. -/
  | notMapping
  /-- A function is needed. -/
  | notFunction
  /-- A catalog of labellers is needed. -/
  | notCatalog
  /-- A mapping that describes a model, or a finished one, is needed. -/
  | notModel (model : Model)
  /-- A key is not a text. -/
  | keyNotText
  /-- A key is not known. -/
  | unknownKey
  /-- Nothing can be assigned. -/
  | frozen
deriving DecidableEq, Repr

namespace IssueKind

/-- The code of a kind in reports. -/
def code : IssueKind → String
  | .missing => "missing"
  | .notText => "string_type"
  | .unreadableFlag => "bool_parsing"
  | .notFlag => "bool_type"
  | .notSequence => "list_type"
  | .notMapping => "dict_type"
  | .notFunction => "callable_type"
  | .notCatalog => "is_instance_of"
  | .notModel _ => "model_type"
  | .keyNotText => "invalid_key"
  | .unknownKey => "extra_forbidden"
  | .frozen => "frozen_instance"

/-- The message of a kind in reports. -/
def message : IssueKind → String
  | .missing => "Field required"
  | .notText => "Input should be a valid string"
  | .unreadableFlag => "Input should be a valid boolean, unable to interpret input"
  | .notFlag => "Input should be a valid boolean"
  | .notSequence => "Input should be a valid list"
  | .notMapping => "Input should be a valid dictionary"
  | .notFunction => "Input should be callable"
  | .notCatalog => "Input should be an instance of LookupResolverRegistry"
  | .notModel model => "Input should be a valid dictionary or instance of " ++ model.name
  | .keyNotText => "Keys should be strings"
  | .unknownKey => "Extra inputs are not permitted"
  | .frozen => "Instance is frozen"

end IssueKind

/-- What is wrong with a part of a configuration, and the path to that part. -/
structure Issue where
  kind : IssueKind
  path : List Place
deriving DecidableEq, Repr

namespace Issue

/-- An issue of a whole value. -/
def here (kind : IssueKind) : Issue := ⟨kind, []⟩

/-- An issue of a part, seen from one step further out. -/
def under (place : Place) (issue : Issue) : Issue :=
  ⟨issue.kind, place :: issue.path⟩

/-- An issue of the value at a key. -/
def atKey (key : String) (kind : IssueKind) : Issue := ⟨kind, [.key key]⟩

end Issue

end Criteria
