import Criteria.Value.Basic
import Criteria.Fault.Misuse

/-! # Notes

Assignments under names that stand for no attribute.

* `Notes.isName` — whether a name is set aside for notes: whether it has a leading underscore;
* `Notes.check` — whether something can be noted under such a name.

Nothing shows a note.  Under the names of what an object is made of nothing can be noted: those of
its type, of its contents, and of what it is kept by.
-/

namespace Criteria.Notes

/-- Whether a name is set aside for notes. -/
def isName (name : String) : Bool :=
  name.toList.head? == some '_'

/-- The names of what an object is kept by. -/
def fixedNames : List String :=
  ["__class_vars__", "__private_attributes__", "__signature__", "__fields_set__", "__weakref__"]

/-- Checks that a value can be noted under a name. -/
def check (name : String) (v : Value) : Except Misuse Unit :=
  if name = "__class__" then .error .wrongType
  else if name = "__dict__" then .error (if v.isMap then .missingMember else .wrongType)
  else if fixedNames.contains name then .error .missingMember
  else .ok ()

end Criteria.Notes
