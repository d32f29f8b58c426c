/-! # Misuse

The ways in which a value can be unfit for what is asked of it, when nothing more is said than the
kind of misfit.
-/

namespace Criteria

/-- Why a value cannot be used as asked. -/
inductive Misuse where
  /-- A value of a type that the operation does not take. -/
  | wrongType
  /-- A value of a type that fits, with contents that do not. -/
  | badValue
  /-- A mapping without a key that is needed. -/
  | missingKey
  /-- An object without a member that is needed. -/
  | missingMember
deriving DecidableEq, Repr

end Criteria
