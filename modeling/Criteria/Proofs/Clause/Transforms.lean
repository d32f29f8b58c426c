import Criteria.Proofs.Clause.ClosedForm

/-! # What a compilation does

A compilation calls transforms and completes criteria, and the log shows both in order.

* `Criterion.companion?` — the override criterion that is compiled along with a criterion;
* `Criterion.ranged?` — the one of the two whose transform is called;
* `Criterion.ends`, `Criterion.calls` — the ends of a range that are given, and the calls for them;
* `Criterion.completions` — the criteria that are completed, the override before its parent.

A transform is called for one end after the other, up to the first call that fails.  Then nothing is
completed (`clause_of_range_of_error`).  Otherwise all ends have been transformed before anything is
completed (`clause_of_range_of_ok`).
-/

namespace Criteria.Criterion

/-! ## Who takes part -/

/-- The override criterion that is compiled along with a criterion: the one for its marked values,
if there are any and it is no range. -/
def companion? (cs : Catalogs) (c : Criterion) : Option Criterion :=
  if c.isRange = true ∨ c.marked = [] then none else (c.override cs (.list c.marked)).toOption

/-- The criterion whose transform is called: the criterion itself if it is a range, or else the one
that is compiled along with it, if that is a range. -/
def ranged? (cs : Catalogs) (c : Criterion) : Option Criterion :=
  if c.isRange then some c else (c.companion? cs).filter isRange

/-- The ends of a range that are neither null nor false, in the order in which they are looked
at. -/
def ends (c : Criterion) : List (Bound × Value) :=
  [Bound.atLeast, .above, .atMost, .below].filterMap fun b =>
    if c.setting (.bound b) = .null ∨ c.setting (.bound b) = .bool false then none
    else some (b, c.setting (.bound b))

/-- The calls of a transform for some ends, one after the other. -/
def calls (t : Transform) (ends : List (Bound × Value)) : List Event :=
  ends.map fun e => .transformed t e.2

/-- The criteria that a compilation completes, the one with the clause last. -/
def completions (cs : Catalogs) (c : Criterion) : List Event :=
  ((c.companion? cs).toList ++ [c]).map fun d => .compiled d.name

theorem companion?_eq_some {cs : Catalogs} {c o : Criterion} :
    c.companion? cs = some o ↔
      c.isRange = false ∧ c.marked ≠ [] ∧ c.override cs (.list c.marked) = .ok o := by
  rw [companion?]
  split
  next alone =>
    refine ⟨nofun, fun ⟨plain, marked, _⟩ => ?_⟩
    rcases alone with ranged | allOwn
    · cases plain.symm.trans ranged
    · exact absurd allOwn marked
  next apart =>
    obtain ⟨plain, marked⟩ := not_or.1 apart
    rw [Bool.not_eq_true] at plain
    cases c.override cs (.list c.marked) with
    | ok o' => simp [Except.toOption, plain, marked]
    | error fault => simp [Except.toOption]

theorem ranged?_eq_some {cs : Catalogs} {c r : Criterion} :
    c.ranged? cs = some r ↔ r.isRange = true ∧ (r = c ∨ c.companion? cs = some r) := by
  rw [ranged?]
  split
  next ranged =>
    have alone : c.companion? cs = none := if_pos (.inl ranged)
    rw [alone, Option.some_inj]
    constructor
    · rintro rfl
      exact ⟨ranged, .inl rfl⟩
    · rintro ⟨_, rfl | isCompanion⟩
      · rfl
      · cases isCompanion
  next plain =>
    rw [Option.filter_eq_some_iff, and_comm]
    refine and_congr_right fun ranged => (or_iff_right ?_).symm
    rintro rfl
    exact plain ranged

theorem ranged?_eq_none {cs : Catalogs} {c : Criterion} :
    c.ranged? cs = none ↔
      c.isRange = false ∧ ∀ o, c.companion? cs = some o → o.isRange = false := by
  simp only [Option.eq_none_iff_forall_ne_some, Ne, ranged?_eq_some, not_and, not_or,
    ← Bool.not_eq_true]
  constructor
  · intro apart
    exact ⟨fun ranged => (apart c ranged).1 rfl,
      fun o isCompanion ranged => (apart o ranged).2 isCompanion⟩
  · rintro ⟨plain, plainOverride⟩ r ranged
    exact ⟨fun same => plain (same ▸ ranged), fun isCompanion => plainOverride r isCompanion ranged⟩

theorem completions_of_alone {cs : Catalogs} {c : Criterion}
    (alone : c.isRange = true ∨ c.marked = []) : c.completions cs = [.compiled c.name] := by
  rw [completions, companion?, if_pos alone]
  rfl

theorem completions_of_companion {cs : Catalogs} {c o : Criterion}
    (isCompanion : c.companion? cs = some o) :
    c.completions cs = [.compiled o.name, .compiled c.name] := by
  rw [completions, isCompanion]
  rfl

theorem rawBounds_eq_ends (c : Criterion) : c.rawBounds = c.ends := by
  have present (v : Value) : v.isPresent = true ↔ ¬(v = .null ∨ v = .bool false) := by
    rw [← Value.isPresent_eq_false, Bool.not_eq_false]
  rw [rawBounds, ← List.filterMap_eq_filter, List.filterMap_map]
  refine congrArg (fun f => Bound.all.filterMap f) (funext fun b => ?_)
  by_cases absent : c.setting (.bound b) = .null ∨ c.setting (.bound b) = .bool false
  · simp [Option.guard, present, absent]
  · simp [Option.guard, present, absent]

/-! ## The calls of a range -/

section

variable {host : Host} {c : Criterion} {t : Transform} (holds : c.setting .transform = .transform t)

include holds

theorem applyTransform_eq (raw : Value) :
    c.applyTransform host raw = ⟨[.transformed t raw], host.apply t raw⟩ := by
  rw [applyTransform, holds]
  exact Run.bind_of_ok rfl _

theorem transformBounds_of_ok {raws : List (Bound × Value)}
    (succeed : ∀ e ∈ raws, ∃ v, host.apply t e.2 = .ok v) :
    c.transformBounds host raws =
      ⟨calls t raws, .ok (raws.filterMap (transformedBound host t))⟩ := by
  induction raws with
  | nil => rfl
  | cons first rest inductionHypothesis =>
    obtain ⟨b, raw⟩ := first
    obtain ⟨⟨v, applied⟩, others⟩ := List.forall_mem_cons.1 succeed
    rw [transformBounds, applyTransform_eq holds, Run.bind_of_ok applied,
      inductionHypothesis others, Run.bind_of_ok rfl, List.filterMap_cons, transformedBound]
    simp only [applied]
    cases v.isPresent with
    | true => simp [calls]
    | false => simp [calls]

theorem transformBounds_of_error {before after : List (Bound × Value)} {b : Bound} {raw : Value}
    {fault : Fault} (succeed : ∀ e ∈ before, ∃ v, host.apply t e.2 = .ok v)
    (raises : host.apply t raw = .error fault) :
    c.transformBounds host (before ++ (b, raw) :: after) =
      ⟨calls t (before ++ [(b, raw)]), .error fault⟩ := by
  induction before with
  | nil =>
    rw [List.nil_append, transformBounds, applyTransform_eq holds, Run.bind_of_error raises]
    rfl
  | cons first rest inductionHypothesis =>
    obtain ⟨b', raw'⟩ := first
    obtain ⟨⟨v, applied⟩, others⟩ := List.forall_mem_cons.1 succeed
    rw [List.cons_append, transformBounds, applyTransform_eq holds, Run.bind_of_ok applied,
      inductionHypothesis others, Run.bind_of_error rfl]
    rfl

variable (ranged : c.isRange = true) (cs : Catalogs)

include ranged

theorem clause_of_range_of_ok (typed : c.Typed)
    (succeed : ∀ e ∈ c.ends, ∃ v, host.apply t e.2 = .ok v) :
    c.clause host cs =
      ⟨calls t c.ends ++ [.compiled c.name],
        .ok (.range c.target (c.ends.filterMap (transformedBound host t)))⟩ := by
  have range : c.rangeClause host =
      ⟨calls t c.ends, .ok (.range c.target (c.ends.filterMap (transformedBound host t)))⟩ := by
    rw [rangeClause, rawBounds_eq_ends, transformBounds_of_ok holds succeed, Run.bind_of_ok rfl,
      typed.clauseField, Run.ofExcept_ok_bind, Run.pure_eq, List.append_nil]
  rw [clause_eq, if_pos ranged, range, Run.bind_of_ok rfl]
  rfl

theorem clause_of_range_of_error {before after : List (Bound × Value)} {b : Bound} {raw : Value}
    {fault : Fault} (split : c.ends = before ++ (b, raw) :: after)
    (succeed : ∀ e ∈ before, ∃ v, host.apply t e.2 = .ok v)
    (raises : host.apply t raw = .error fault) :
    c.clause host cs = ⟨calls t (before ++ [(b, raw)]), .error fault⟩ := by
  have range : c.rangeClause host = ⟨calls t (before ++ [(b, raw)]), .error fault⟩ := by
    rw [rangeClause, rawBounds_eq_ends, split, transformBounds_of_error holds succeed raises,
      Run.bind_of_error rfl]
  rw [clause_eq, if_pos ranged, range, Run.bind_of_error rfl]

end

/-! ## Compilations without a range of their own -/

namespace Typed

variable {c : Criterion} (typed : c.Typed) (plain : c.isRange = false)

include typed plain

theorem clause_of_unmarked (allOwn : c.marked = []) (host : Host) (cs : Catalogs) :
    c.clause host cs =
      ⟨[.compiled c.name], .ok (.matching c.form c.target (c.operand c.unmarked))⟩ := by
  rw [clause_eq, typed.mainClause]
  simp only [plain, allOwn, Bool.false_eq_true, if_false, if_true]
  rfl

/-- What the override criterion does is done first. -/
theorem clause_of_override {cs : Catalogs} {o : Criterion} (marked : c.marked ≠ [])
    (made : c.override cs (.list c.marked) = .ok o) (host : Host) :
    c.clause host cs =
      match (o.clause host cs).outcome with
      | .ok inner => ⟨(o.clause host cs).log ++ [.compiled c.name],
          .ok (.either (.matching c.form c.target (c.operand c.unmarked)) inner)⟩
      | .error fault => ⟨(o.clause host cs).log, .error fault⟩ := by
  rw [clause_eq, typed.mainClause, made]
  simp only [plain, marked, Bool.false_eq_true, if_false, Run.ofExcept_ok_bind]
  cases compiled : (o.clause host cs).outcome with
  | ok inner =>
    rw [Run.bind_of_ok compiled]
    rfl
  | error fault => rw [Run.bind_of_error compiled]

end Typed

/-! ## The whole compilation -/

/-- The mapping that a range compiles to. -/
def rangeValue (host : Host) (r : Criterion) : Value :=
  ClosedForm.entry (ClosedForm.field r) (.map (ClosedForm.bounds host r))

theorem Typed.toValue_of_ends {host : Host} {r : Criterion} {t : Transform} (typed : r.Typed)
    (holds : r.setting .transform = .transform t) :
    (Clause.range r.target (r.ends.filterMap (transformedBound host t))).toValue
      = r.rangeValue host := by
  rw [Clause.toValue, typed.target_eq_field, ← rawBounds_eq_ends, boundsValue_eq holds]
  rfl

/-- A constructed criterion that is no range has an override criterion for its marked values. -/
theorem exists_companion {cs : Catalogs} {c₀ : Criterion} (constructed : Constructed cs c₀)
    (changes : List Change) (plain : (c₀.changeAll changes).isRange = false)
    (marked : (c₀.changeAll changes).marked ≠ []) :
    ∃ o, (c₀.changeAll changes).override cs (.list (c₀.changeAll changes).marked) = .ok o ∧
      (c₀.changeAll changes).companion? cs = some o := by
  obtain ⟨es, accepted⟩ := constructed.accepted
  obtain ⟨o, made⟩ := override_accepted accepted (.list (c₀.changeAll changes).marked)
  rw [← override_changeAll cs c₀ changes] at made
  exact ⟨o, made, companion?_eq_some.2 ⟨plain, marked, made⟩⟩

theorem Typed.clause_of_no_range {cs : Catalogs} {c : Criterion} (typed : c.Typed)
    (companion : c.isRange = false → c.marked ≠ [] →
      ∃ o, c.override cs (.list c.marked) = .ok o ∧ c.companion? cs = some o)
    (noRange : c.ranged? cs = none) (host : Host) :
    (c.clause host cs).log = c.completions cs ∧
      ∃ clause, (c.clause host cs).outcome = .ok clause := by
  obtain ⟨plain, plainOverride⟩ := ranged?_eq_none.1 noRange
  by_cases allOwn : c.marked = []
  · have compiled := typed.clause_of_unmarked plain allOwn host cs
    rw [completions_of_alone (.inr allOwn)]
    exact ⟨congrArg Run.log compiled, _, congrArg Run.outcome compiled⟩
  · obtain ⟨o, made, isCompanion⟩ := companion plain allOwn
    have compiled := typed.clause_of_override plain allOwn made host
    have overrideTyped := (Constructed.nested made).typed
    rw [overrideTyped.clause_of_unmarked (plainOverride o isCompanion) (marked_override made)]
      at compiled
    rw [completions_of_companion isCompanion]
    exact ⟨congrArg Run.log compiled, _, congrArg Run.outcome compiled⟩

/-- What the compilation of a criterion calls and completes, however the criterion came to be and
was changed.  The transform of at most one range is called, for its ends one after the other.  When
a call fails, that is all, and the failure is the outcome.  Otherwise the override criterion, if
there is one, and the criterion itself are completed, and the clause holds the transformed ends. -/
theorem clause_transforms {cs : Catalogs} {c₀ : Criterion} (constructed : Constructed cs c₀)
    (changes : List Change) (host : Host) :
    let c := c₀.changeAll changes
    let run := c.clause host cs
    (c.isRange = false → c.marked ≠ [] →
      ∃ o, c.override cs (.list c.marked) = .ok o ∧ c.companion? cs = some o) ∧
    (c.ranged? cs = none →
      run.log = c.completions cs ∧ ∃ clause, run.outcome = .ok clause) ∧
    ∀ r, c.ranged? cs = some r → ∃ t, r.setting .transform = .transform t ∧
      (∀ before b raw after fault, r.ends = before ++ (b, raw) :: after →
        (∀ e ∈ before, ∃ v, host.apply t e.2 = .ok v) → host.apply t raw = .error fault →
          run = ⟨calls t (before ++ [(b, raw)]), .error fault⟩) ∧
      ((∀ e ∈ r.ends, ∃ v, host.apply t e.2 = .ok v) →
        run.log = calls t r.ends ++ c.completions cs ∧
        ∃ clause, run.outcome = .ok clause ∧
          (r = c → clause.toValue = r.rangeValue host) ∧
          (r ≠ c → clause.toValue = ClosedForm.entry (.str "or")
            (.list [ClosedForm.main c c.unmarked, r.rangeValue host]))) := by
  intro c run
  have typed : c.Typed := constructed.typed.changeAll changes
  have companion := exists_companion constructed changes
  refine ⟨companion, fun noRange => typed.clause_of_no_range companion noRange host,
    fun r isRanged => ?_⟩
  obtain ⟨ranged, rfl | isCompanion⟩ := ranged?_eq_some.1 isRanged
  · -- the criterion is the range
    obtain ⟨t, holds⟩ := typed.transform
    refine ⟨t, holds, fun before b raw after fault split succeed raises => ?_, fun succeed => ?_⟩
    · exact clause_of_range_of_error holds ranged cs split succeed raises
    · have compiled := clause_of_range_of_ok holds ranged cs typed succeed
      rw [completions_of_alone (.inl ranged)]
      exact ⟨congrArg Run.log compiled, _, congrArg Run.outcome compiled,
        fun _ => typed.toValue_of_ends holds, fun other => absurd rfl other⟩
  · -- the override is the range, and it comes before the criterion
    obtain ⟨plain, marked, made⟩ := companion?_eq_some.1 isCompanion
    have overrideTyped := (Constructed.nested made).typed
    obtain ⟨t, holds⟩ := overrideTyped.transform
    have compiled := typed.clause_of_override plain marked made host
    refine ⟨t, holds, fun before b raw after fault split succeed raises => ?_, fun succeed => ?_⟩
    · rwa [clause_of_range_of_error holds ranged cs split succeed raises] at compiled
    · rw [clause_of_range_of_ok holds ranged cs overrideTyped succeed, List.append_assoc]
        at compiled
      rw [completions_of_companion isCompanion]
      refine ⟨congrArg Run.log compiled, _, congrArg Run.outcome compiled, ?_, fun _ => ?_⟩
      · rintro rfl
        cases plain.symm.trans ranged
      · rw [Clause.toValue, typed.toValue_matching, overrideTyped.toValue_of_ends holds]
        rfl

/-- A marked value goes to a range whose transform is called for two of its three ends. -/
theorem clause_transforms_of_marked :
    let spec : Entries := [("range", .bool true), ("from", .int 1), ("to_eq", .str "x"),
      ("to", .int 9)]
    let config : Value := .map [("name", "price"), ("transform", .transform (.named "plus2")),
      ("user_query", .map spec),
      ("values", .list [.map [("key", "5"), ("user_query", .bool true)]])]
    ∃ c r, (Construction.ofConfig config).build .initial = .ok c ∧
      c.isRange = false ∧ c.ranged? .initial = some r ∧
      r.ends = [(.above, .int 1), (.atMost, .str "x"), (.below, .int 9)] ∧
      c.clause (Stock.host []) .initial =
        ⟨[.transformed (.named "plus2") (.int 1), .transformed (.named "plus2") (.str "x")],
          .error (.raised "bad bound")⟩ := by
  intro spec config
  have made : ((Construction.ofConfig config).build .initial).map (fun c =>
      (c.isRange, (c.ranged? .initial).map fun r => (r.ends, r.setting .transform)))
      = .ok (false, some ([(.above, .int 1), (.atMost, .str "x"), (.below, .int 9)],
        .transform (.named "plus2"))) := by
    decide +kernel
  obtain ⟨c, builds, facts⟩ := Outcome.map_eq_ok.1 made
  obtain ⟨plain, someRange⟩ := Prod.mk.inj facts
  obtain ⟨r, isRanged, facts⟩ := Option.map_eq_some_iff.1 someRange
  obtain ⟨ends, transform⟩ := Prod.mk.inj facts
  obtain ⟨_, _, ofRange⟩ := clause_transforms (.built builds) [] (Stock.host [])
  obtain ⟨t, holds, failing, _⟩ := ofRange r isRanged
  cases transform.symm.trans holds
  refine ⟨c, r, builds, plain, isRanged, ends, ?_⟩
  refine failing [(.above, .int 1)] .atMost (.str "x") _ _ ends (fun e inside => ?_) rfl
  rw [List.mem_singleton.1 inside]
  exact ⟨.int 3, rfl⟩

end Criteria.Criterion
