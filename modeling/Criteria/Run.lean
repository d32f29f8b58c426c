import Criteria.Clause.Basic
import Criteria.Fault.Basic

/-! # Runs

Computations that may fail and that leave a log of what they did.

* `Event` — what is worth logging: transforms, compiled criteria, searches, missing labels;
* `Run` — a log and an outcome;
* `Run.note`, `Run.fail`, `Run.ofExcept` — the elementary runs.

A run that fails keeps what was logged before the failure.  Runs in sequence log in sequence, and
nothing runs after a failure.
-/

namespace Criteria

/-- Something a run does that can be seen from outside. -/
inductive Event where
  /-- A transform was applied to a raw bound. -/
  | transformed (transform : Transform) (raw : Value)
  /-- The criterion with this name was compiled. -/
  | compiled (name : Value)
  /-- A clause was sent to the engine with this name. -/
  | searched (engine : String) (clause : Clause)
  /-- No label was found for a key, under these field names and for this criterion. -/
  | unlabelled (labelField keyField key criterion : Value)
deriving DecidableEq, Repr

/-- A log of events and the outcome they led to. -/
structure Run (α : Type) where
  log : List Event
  outcome : Except Fault α

namespace Run

variable {α β : Type}

/-- The run that does nothing. -/
protected def pure (a : α) : Run α := ⟨[], .ok a⟩

/-- One run after another. -/
protected def bind (x : Run α) (f : α → Run β) : Run β :=
  match x.outcome with
  | .ok a => ⟨x.log ++ (f a).log, (f a).outcome⟩
  | .error e => ⟨x.log, .error e⟩

instance : Monad Run where
  pure := Run.pure
  bind := Run.bind

/-- The run that logs an event. -/
def note (event : Event) : Run Unit := ⟨[event], .ok ()⟩

/-- The run that fails. -/
def fail (fault : Fault) : Run α := ⟨[], .error fault⟩

/-- The run with a given outcome and no log. -/
def ofExcept (outcome : Except Fault α) : Run α := ⟨[], outcome⟩

@[simp] theorem pure_eq (a : α) : (pure a : Run α) = ⟨[], .ok a⟩ := rfl

theorem bind_eq (x : Run α) (f : α → Run β) :
    (x >>= f) = match x.outcome with
      | .ok a => ⟨x.log ++ (f a).log, (f a).outcome⟩
      | .error e => ⟨x.log, .error e⟩ := rfl

theorem bind_of_ok {x : Run α} {a : α} (h : x.outcome = .ok a) (f : α → Run β) :
    (x >>= f) = ⟨x.log ++ (f a).log, (f a).outcome⟩ := by
  rw [bind_eq, h]

theorem bind_of_error {x : Run α} {e : Fault} (h : x.outcome = .error e) (f : α → Run β) :
    (x >>= f) = ⟨x.log, .error e⟩ := by
  rw [bind_eq, h]

/-- The outcome of one run after another is that of the second one, if the first succeeds. -/
theorem outcome_bind (x : Run α) (f : α → Run β) :
    (x >>= f).outcome = x.outcome.bind fun a => (f a).outcome := by
  rw [bind_eq]
  cases x.outcome <;> rfl

@[simp] theorem ofExcept_ok_bind (a : α) (f : α → Run β) : (ofExcept (.ok a) >>= f) = f a := rfl

@[simp] theorem ofExcept_log (outcome : Except Fault α) : (ofExcept outcome).log = [] := rfl
@[simp] theorem ofExcept_outcome (outcome : Except Fault α) :
    (ofExcept outcome).outcome = outcome := rfl
@[simp] theorem note_log (event : Event) : (note event).log = [event] := rfl
@[simp] theorem note_outcome (event : Event) : (note event).outcome = .ok () := rfl
@[simp] theorem fail_log (fault : Fault) : (fail fault : Run α).log = [] := rfl
@[simp] theorem fail_outcome (fault : Fault) : (fail fault : Run α).outcome = .error fault := rfl

end Run

end Criteria
