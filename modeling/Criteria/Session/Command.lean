import Criteria.Criterion.Chain

/-! # Commands and answers

What can be asked of a session, and what it answers.

* `CatalogRequest` — what a catalog can be asked about one name;
* `Command` — commands on named criteria and on named catalogs;
* `Answer` — answers, one for each command.

A command may be given something that cannot be made as described.  That matters only once the
command gets as far as looking at it.
-/

namespace Criteria

/-- What a catalog can be asked about one name. -/
inductive CatalogRequest where
  | register
  | unregister
  | has
  | get
  | resolve
  | create
deriving DecidableEq, Repr

/-- A command to a session.  Criteria go by an identifier, catalogs by their names. -/
inductive Command where
  /-- Construct a criterion in place of the one with this identifier. -/
  | construct (id : String) (construction : Given Construction)
  /-- Assign an attribute. -/
  | assign (id : String) (member : Value) (value : Given Value)
  /-- Replace the values. -/
  | setValues (id : String) (value : Given Value)
  /-- Make a chain of calls, each by its name and arguments. -/
  | chain (id : String) (calls : List (Given String × Given (List Value)))
  /-- Keep the override criterion for some values under another identifier. -/
  | override (id : String) (values : Given Value) (target : String)
  /-- Compile. -/
  | compile (id : String)
  /-- Label the values. -/
  | label (id : String)
  | summary (id : String)
  | isBlank (id : String)
  | needsLabels (id : String)
  /-- Tell which catalog labellers are taken from. -/
  | catalog (id : String)
  /-- Show a criterion in all its aspects. -/
  | view (id : String)
  | state (id : String)
  | dump (id : String) (aliased : Bool)
  | register (catalog name : String) (kind : LabellerKind)
  | unregister (catalog name : String)
  | names (catalog : String)
  | has (catalog name : String)
  | get (catalog name : String)
  | resolve (catalog name : String)
  /-- Make a labeller with some arguments, and have it load some entries. -/
  | create (catalog name : String) (arguments : Given Entries) (load : Option (Given Value))
  /-- Ask a catalog about a name that is no text. -/
  | misnamed (catalog : String) (request : CatalogRequest) (name : Given Value)

/-- The answer to a command. -/
inductive Answer where
  /-- There is no criterion with the identifier. -/
  | noCriterion
  | fault (f : Fault)
  | state (c : Criterion)
  | values (values : List Value)
  /-- A compilation. -/
  | clause (run : Run Clause)
  /-- Whether values were labelled, and the values afterwards. -/
  | labelled (run : Run Bool) (values : List Value)
  | result (v : Value)
  | dump (v : Value)
  /-- A criterion with its compilation. -/
  | view (c : Criterion) (run : Run Clause)
  | names (names : List String)
  /-- The kind of a labeller, if there is one. -/
  | kind (kind : Option LabellerKind)
  /-- A labeller, what it is called, and what it loaded. -/
  | labeller (l : Labeller) (title : String) (loaded : Option (Run (List Value)))

end Criteria
