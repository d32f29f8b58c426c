/-! # Outcomes in sequence

When one outcome after another succeeds.

* `Outcome.bind_eq_ok` — both steps succeed, the second one on the result of the first;
* `Outcome.map_eq_ok`, `Outcome.exists_map_eq_ok` — a change of results changes no success;
* `Outcome.map_eq_error`, `Outcome.mapM_eq_error` — a failure is that of a step;
* `Outcome.all_ok_or_error` — all of several steps succeed, or there is a first one that fails.
-/

namespace Criteria.Outcome

variable {α β ε : Type}

/-- Two steps succeed when the first does, and the second does on its result. -/
theorem bind_eq_ok {x : Except ε α} {f : α → Except ε β} {b : β} :
    (x >>= f) = .ok b ↔ ∃ a, x = .ok a ∧ f a = .ok b := by
  cases x with
  | error e => exact ⟨nofun, nofun⟩
  | ok a => exact ⟨fun h => ⟨a, rfl, h⟩, fun ⟨_, ha, h⟩ => by cases ha; exact h⟩

/-- A changed result is the change of a result. -/
theorem map_eq_ok {x : Except ε α} {f : α → β} {b : β} :
    x.map f = .ok b ↔ ∃ a, x = .ok a ∧ f a = b := by
  cases x with
  | error e => exact ⟨nofun, nofun⟩
  | ok a =>
    constructor
    · intro h
      exact ⟨a, rfl, Except.ok.inj h⟩
    · rintro ⟨_, ⟨⟩, rfl⟩
      rfl

/-- A change of results makes no success and takes none away. -/
theorem exists_map_eq_ok {x : Except ε α} {f : α → β} :
    (∃ b, x.map f = .ok b) ↔ ∃ a, x = .ok a := by
  cases x with
  | error e => exact ⟨nofun, nofun⟩
  | ok a => exact ⟨fun _ => ⟨a, rfl⟩, fun _ => ⟨f a, rfl⟩⟩

theorem map_eq_error {x : Except ε α} {f : α → β} {e : ε} :
    x.map f = .error e ↔ x = .error e := by
  cases x with
  | error e' => simp only [Except.map, Except.error.injEq]
  | ok a => exact ⟨nofun, nofun⟩

theorem mapM_eq_error {f : α → Except ε β} {xs : List α} {e : ε} (fails : xs.mapM f = .error e) :
    ∃ x ∈ xs, f x = .error e := by
  induction xs with
  | nil => cases fails
  | cons x xs inductionHypothesis =>
    rw [List.mapM_cons] at fails
    cases first : f x with
    | error e' =>
      rw [first] at fails
      cases fails
      exact ⟨x, List.mem_cons_self, first⟩
    | ok b =>
      cases rest : xs.mapM f with
      | error e' =>
        rw [first, rest] at fails
        cases fails
        obtain ⟨y, member, failed⟩ := inductionHypothesis rest
        exact ⟨y, List.mem_cons_of_mem x member, failed⟩
      | ok bs =>
        rw [first, rest] at fails
        cases fails

/-- Either all steps succeed or one fails after others that succeed. -/
theorem all_ok_or_error (f : α → Except ε β) (xs : List α) :
    (∀ x ∈ xs, ∃ b, f x = .ok b) ∨
    ∃ before x after e, xs = before ++ x :: after ∧ (∀ y ∈ before, ∃ b, f y = .ok b) ∧
      f x = .error e := by
  induction xs with
  | nil => exact .inl nofun
  | cons x xs inductionHypothesis =>
    cases first : f x with
    | error e => exact .inr ⟨[], x, xs, e, rfl, nofun, first⟩
    | ok b =>
      rcases inductionHypothesis with succeed | ⟨before, y, after, e, rfl, succeed, fails⟩
      · exact .inl (List.forall_mem_cons.2 ⟨⟨b, first⟩, succeed⟩)
      · exact .inr ⟨x :: before, y, after, e, rfl,
          List.forall_mem_cons.2 ⟨⟨b, first⟩, succeed⟩, fails⟩

end Criteria.Outcome
