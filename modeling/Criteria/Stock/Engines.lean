import Criteria.Clause.Basic
import Criteria.Value.Written
import Criteria.Fault.Basic

/-! # Stock engines

Search engines over documents in memory.

* `Stock.Engine` — some documents, and how they are searched;
* `Stock.Engine.search` — the documents that an engine gives for a clause.

An engine that matches compares a field of each document with the wanted items by their texts.
-/

namespace Criteria.Stock

/-- How an engine searches. -/
inductive SearchMode where
  /-- The documents that match come back. -/
  | matching
  /-- All documents come back. -/
  | everything
  /-- No search succeeds. -/
  | failing
deriving DecidableEq, Repr

/-- Documents in memory, and how they are searched. -/
structure Engine where
  documents : List Entries
  mode : SearchMode
deriving DecidableEq, Repr

namespace Engine

/-- The items that are wanted: those of a list, or a single value. -/
def wantedItems : Value → List Value
  | .list items => items
  | v => [v]

/-- Whether the text of a field of a document is that of a wanted item. -/
def matchesField (field wanted : Value) (document : Entries) : Bool :=
  (wantedItems wanted).any fun v => v.text == (Entries.get document field).text

/-- The documents that match a clause of a single field. -/
def matching (documents : List Entries) : Value → List Entries
  | .map [(field, wanted)] => documents.filter (matchesField field wanted)
  | _ => []

/-- The documents that an engine gives for a clause. -/
def search (e : Engine) (clause : Clause) : Except Fault (List Entries) :=
  match e.mode with
  | .matching => .ok (matching e.documents clause.toValue)
  | .everything => .ok e.documents
  | .failing => .error (.raised "search down")

end Engine

end Criteria.Stock
