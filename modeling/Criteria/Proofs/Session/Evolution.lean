import Criteria.Proofs.Criterion.Evolution
import Criteria.Session.Basic

/-! # How the criteria of a session come about

Commands construct criteria and change them, or assign to their attributes directly.

* `Command.Assigns` — commands that assign to an attribute of a criterion;
* `Session.EvolvedAt` — sessions whose criterion under an identifier, if any, was constructed and
  changed in no other way.

An assignment need not give an attribute what it is for.  A chain of calls can make one, too, by the
name under which bounds are set.  Every other call of a chain changes its criterion as some edit, or
some command, would, or turns to another criterion.
-/

namespace Criteria

/-- Commands that assign to an attribute of the criterion with an identifier. -/
def Command.Assigns (id : String) : Command → Prop
  | .assign id' _ _ => id' = id
  | .chain id' calls => id' = id ∧ ∃ call ∈ calls, call.1 = .ok "_bound"
  | _ => False

/-! ## Chains -/

namespace Chain

variable {ch : Chain}

theorem origin_replace_change (evolved : ch.origin.Evolved) (change : Change) :
    (ch.replace (ch.current.change change)).origin.Evolved := by
  -- a chain that has turned to another criterion changes that one
  unfold replace current
  cases other : ch.other with
  | some c => exact evolved
  | none => exact evolved.change change

theorem origin_after {result : Except Fault Chain} (evolved : ch.origin.Evolved)
    (next : ∀ ch', result = .ok ch' → ch'.origin.Evolved) : (ch.after result).1.origin.Evolved := by
  cases result with
  | ok ch' => exact next ch' rfl
  | error fault => exact evolved

theorem origin_callEditing (evolved : ch.origin.Evolved) (cs : Catalogs) {name : String}
    (noAssignment : name ≠ "_bound") (arguments : List Value) :
    (ch.callEditing cs name arguments).1.origin.Evolved := by
  unfold callEditing
  split
  · refine origin_after evolved fun ch' turned => ?_
    obtain ⟨c, _, rfl⟩ := Outcome.map_eq_ok.1 turned
    exact evolved
  · exact evolved
  · exact absurd rfl noAssignment
  · split
    next e _ => exact origin_replace_change evolved (.edit e)
    next => exact evolved

theorem origin_callFinished (evolved : ch.origin.Evolved) {host : Host} {cs : Catalogs}
    {name : String} {arguments : List Value} {ch' : Chain}
    (called : ch.callFinished host cs name arguments = .ok ch') : ch'.origin.Evolved := by
  have mapped {α : Type} {x : Except Fault α} {f : α → Chain} (called : x.map f = .ok ch')
      (keeps : ∀ a, (f a).origin.Evolved) : ch'.origin.Evolved := by
    obtain ⟨a, _, rfl⟩ := Outcome.map_eq_ok.1 called
    exact keeps a
  unfold callFinished at called
  split at called
  case h_1 v =>
    cases called
    exact origin_replace_change evolved (.setValues v)
  case h_11 =>
    unfold callMember at called
    split at called
    · exact mapped called fun _ => evolved
    · cases called
  -- the other calls turn to another criterion, or end the chain
  all_goals
    first
    | exact mapped called fun _ => evolved
    | cases called
      exact evolved

theorem origin_callLabel (evolved : ch.origin.Evolved) (host : Host) (cs : Catalogs) :
    (ch.callLabel host cs).1.origin.Evolved := by
  -- the labelling counts whether it succeeds or not
  have labelled : (ch.replace (ch.current.label host cs).1).origin.Evolved :=
    origin_replace_change evolved (.label host cs)
  refine origin_after labelled fun ch' entered => ?_
  obtain ⟨_, _, rfl⟩ := Outcome.map_eq_ok.1 entered
  exact labelled

theorem origin_call (evolved : ch.origin.Evolved) (host : Host) (cs : Catalogs) {name : String}
    (noAssignment : name ≠ "_bound") (arguments : Given (List Value)) :
    (ch.call host cs name arguments).1.origin.Evolved := by
  unfold call
  split
  · split
    · exact evolved
    · exact origin_callEditing evolved cs noAssignment _
    · split
      · exact origin_callLabel evolved host cs
      · exact origin_after evolved fun _ called => origin_callFinished evolved called
  · exact evolved

theorem origin_run (evolved : ch.origin.Evolved) (host : Host) (cs : Catalogs)
    {calls : List (Given String × Given (List Value))}
    (noAssignment : ∀ call ∈ calls, call.1 ≠ .ok "_bound") :
    (ch.run host cs calls).1.origin.Evolved := by
  induction calls generalizing ch with
  | nil => exact evolved
  | cons call calls inductionHypothesis =>
    obtain ⟨first, others⟩ := List.forall_mem_cons.1 noAssignment
    obtain ⟨name, arguments⟩ := call
    cases name with
    | error fault => exact evolved
    | ok name =>
      have next := origin_call evolved host cs (fun same => first (congrArg _ same)) arguments
      rw [run]
      split
      next ch' called =>
        rw [called] at next
        exact inductionHypothesis next others
      next ch' fault called =>
        rw [called] at next
        exact next

end Chain

/-! ## Sessions -/

namespace Session

/-- A session whose criterion under an identifier, if there is one, was constructed and changed, but
not by assignments. -/
def EvolvedAt (s : Session) (id : String) : Prop :=
  ∀ c, s.criteria id = some c → c.Evolved

variable {s : Session} {id : String}

theorem EvolvedAt.keep (evolved : s.EvolvedAt id) {id' : String} {c? : Option Criterion}
    (kept : id' = id → ∀ c, c? = some c → c.Evolved) : (s.keep id' c?).EvolvedAt id := by
  intro c isThere
  rw [criteria_keep] at isThere
  split at isThere
  next same => exact kept same.symm c isThere
  next => exact evolved c isThere

theorem EvolvedAt.withCriterion (evolved : s.EvolvedAt id) {id' : String}
    {f : Criterion → Session × Answer}
    (next : ∀ c, s.criteria id' = some c → (f c).1.EvolvedAt id) :
    (s.withCriterion id' f).1.EvolvedAt id := by
  unfold Session.withCriterion
  split
  next c isThere => exact next c isThere
  next => exact evolved

theorem EvolvedAt.withGiven {α : Type} (evolved : s.EvolvedAt id) {given : Given α}
    {f : α → Session × Answer} (next : ∀ a, (f a).1.EvolvedAt id) :
    (s.withGiven given f).1.EvolvedAt id := by
  unfold Session.withGiven
  split
  next a => exact next a
  next => exact evolved

theorem EvolvedAt.reading (evolved : s.EvolvedAt id) {id' : String} {f : Criterion → Answer} :
    (s.reading id' f).1.EvolvedAt id :=
  evolved.withCriterion fun _ _ => evolved

theorem EvolvedAt.step (evolved : s.EvolvedAt id) (host : Host) {command : Command}
    (unassigned : ¬ command.Assigns id) : (s.step host command).1.EvolvedAt id := by
  cases command with
  | construct id' construction =>
    rw [Session.step]
    split
    next c built =>
      obtain ⟨k, _, builds⟩ := Outcome.bind_eq_ok.1 built
      exact evolved.keep fun _ _ isNew => Option.some.inj isNew ▸ .of_constructed (.built builds)
    next => exact evolved.keep fun _ _ => nofun
  | assign id' member value =>
    refine evolved.withCriterion fun c _ => evolved.withGiven fun v => ?_
    split
    · exact evolved.keep fun same => absurd same unassigned
    · exact evolved
  | setValues id' value =>
    refine evolved.withCriterion fun c isThere => evolved.withGiven fun v => ?_
    refine evolved.keep fun same _ isNew => Option.some.inj isNew ▸ ?_
    exact (evolved c (same ▸ isThere)).change (.setValues v)
  | chain id' calls =>
    refine evolved.withCriterion fun c isThere => ?_
    refine evolved.keep fun same _ isNew => Option.some.inj isNew ▸ ?_
    refine Chain.origin_run (evolved c (same ▸ isThere)) host s.catalogs fun call member => ?_
    exact fun assignment => unassigned ⟨same, call, member, assignment⟩
  | override id' values target =>
    refine evolved.withCriterion fun c _ => evolved.withGiven fun v => ?_
    split
    next o made =>
      exact evolved.keep fun _ _ isNew => Option.some.inj isNew ▸ .of_constructed (.nested made)
    next => exact evolved
  | label id' =>
    refine evolved.withCriterion fun c isThere => ?_
    refine evolved.keep fun same _ isNew => Option.some.inj isNew ▸ ?_
    exact (evolved c (same ▸ isThere)).change (.label host s.catalogs)
  | compile | summary | isBlank | needsLabels | catalog | view | state | dump =>
    exact evolved.reading
  | register | unregister | names | has | get => exact evolved
  | resolve catalog name =>
    rw [Session.step]
    split <;> exact evolved
  | create | misnamed => exact evolved.withGiven fun _ => evolved

theorem EvolvedAt.run (evolved : s.EvolvedAt id) (host : Host) {commands : List Command}
    (unassigned : ∀ command ∈ commands, ¬ command.Assigns id) :
    (s.run host commands).1.EvolvedAt id := by
  induction commands generalizing s with
  | nil => exact evolved
  | cons command commands inductionHypothesis =>
    obtain ⟨first, others⟩ := List.forall_mem_cons.1 unassigned
    exact inductionHypothesis (evolved.step host first) others

end Session

end Criteria
