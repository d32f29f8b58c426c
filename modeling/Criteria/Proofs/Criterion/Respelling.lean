import Criteria.Fault.Report
import Criteria.Proofs.Clause.Catalogs
import Criteria.Proofs.Config.Respelling
import Criteria.Proofs.Criterion.Inheritance

/-! # Criteria in other spellings

A configuration may be respelled at the top and at every level of its overrides.

The levels inside are not read with the top, but when the override criterion is made: once while the
criterion is constructed, and again when it is compiled.  So respelling is followed down the chain
of overrides (`ofEntries_respell`), and a criterion in other spellings makes the same override
criteria, again in other spellings (`override_respell`).  A criterion without an override to compile
does not look at that setting, so in the end the clauses are the same (`clause_respell`).
-/

namespace Criteria

open Entries

/-- A configuration in which no attribute is given in both spellings, at the top or in one of the
override configurations inside it. -/
def Config.SpelledOnce (es : Entries) : Prop :=
  ∀ level ∈ es :: Entries.overrideChain es, SpelledAlike level level

instance (es : Entries) : Decidable (Config.SpelledOnce es) :=
  inferInstanceAs (Decidable (∀ level ∈ es :: Entries.overrideChain es,
    Config.SpelledAlike level level))

namespace Criterion

/-! ## Override configurations in other spellings -/

section

variable (levels : List (List Setting)) (c : Criterion)

theorem setting_respell {s : Setting} (other : s ≠ .override) :
    (c.respell levels).setting s = c.setting s :=
  if_neg other

theorem setting_override_respell :
    (c.respell levels).setting .override = Config.respellSpec levels (c.setting .override) := rfl

theorem setValues_respell (v : Value) :
    (c.respell levels).setValues v = (c.setValues v).respell levels := rfl

theorem inherited_respell : Config.respell levels c.inherited = c.inherited := by
  refine Config.respell_of_plain levels fun e inside => ?_
  obtain ⟨s, inherits, rfl⟩ := List.mem_map.1 inside
  refine .inr ⟨s, (Setting.plain_of_inherited inherits).1, ?_, rfl⟩
  rintro rfl
  exact absurd inherits (by decide)

/-- Respelling commutes with what an override configuration inherits. -/
theorem overrideConfig_respell (spec : Entries) (values : Value) :
    (c.respell levels).overrideConfig (Config.respell levels spec) values
      = Config.respell levels (c.overrideConfig spec values) := by
  rw [overrideConfig, overrideConfig, Config.respell_insert_values, Config.respell_overlay,
    inherited_respell]
  rfl

end

theorem plainlyKeyed_inherited (c : Criterion) : Config.PlainlyKeyed c.inherited := by
  intro s aliased k spelled
  have own : s ∉ Setting.inherited := fun inherits =>
    aliased (Setting.plain_of_inherited inherits).1
  exact get?_eq_none.1 (get?_inherited_of_own own spelled c)

theorem spelledOnce_overrideConfig {spec : Entries} (once : Config.SpelledOnce spec)
    (c : Criterion) (values : Value) : Config.SpelledOnce (c.overrideConfig spec values) := by
  have inherits := c.plainlyKeyed_inherited
  intro level inChain
  rw [overrideChain_overrideConfig] at inChain
  rcases List.mem_cons.1 inChain with rfl | deeper
  · refine (Config.spelledAlike_insert (Config.plainlyKeyed_values values)).2 ?_
    exact Config.spelledAlike_overlay.2 ⟨inherits.spelledAlike _,
      once spec List.mem_cons_self, (inherits.spelledAlike _).symm⟩
  · exact once level (List.mem_cons_of_mem _ deeper)

/-! ## Reading in other spellings -/

/-- Outcomes that are equal up to a change of the results and up to the places of issues are both
successes or both faults. -/
theorem unplaced_cases {x y : Except Fault Criterion} {f : Criterion → Criterion}
    (same : x.mapError Fault.unplaced = (y.map f).mapError Fault.unplaced) :
    (∃ c, y = .ok c ∧ x = .ok (f c)) ∨
      ∃ fault fault', y = .error fault ∧ x = .error fault' ∧
        fault'.unplaced = fault.unplaced := by
  cases y with
  | ok c =>
    cases x with
    | ok d => exact .inl ⟨c, rfl, congrArg Except.ok (Except.ok.inj same)⟩
    | error fault => cases same
  | error fault =>
    cases x with
    | ok d => cases same
    | error fault' => exact .inr ⟨fault, fault', rfl, rfl, Except.error.inj same⟩

/-- A configuration in other spellings is read as the same criterion in other spellings, or refused
for the same reasons. -/
def ReadAlike (cs : Catalogs) (levels : List (List Setting)) (es : Entries) : Prop :=
  (ofEntries cs (Config.respell levels es)).mapError Fault.unplaced
    = ((ofEntries cs es).map (respell levels.tail)).mapError Fault.unplaced

theorem readAlike_of_override {cs : Catalogs} {es : Entries}
    (once : Config.SpelledAlike es es) (levels : List (List Setting))
    (deeper : ∀ (c : Criterion) (spec : Entries), get es Setting.override.key = .map spec →
      ReadAlike cs levels.tail (c.overrideConfig spec (.list []))) : ReadAlike cs levels es := by
  unfold ReadAlike
  rcases unplaced_cases (Config.read_respell levels once) with
    ⟨c, reads, reads'⟩ | ⟨fault, fault', refused, refused', same⟩
  · rw [ofEntries_of_read reads, ofEntries_of_read reads', setting_override_respell]
    change Except.mapError _ ((c.checkLabeller cs).bind _) = _
    cases c.checkLabeller cs with
    | error fault => rfl
    | ok known =>
      have found := Config.setting_override_of_read reads
      cases holds : c.setting .override with
      | map spec =>
        have inner := deeper c spec (found.symm.trans holds)
        simp only [Except.bind, Config.respellSpec, overrideConfig_respell]
        rcases unplaced_cases inner with ⟨o, made, made'⟩ | ⟨_, _, refused, refused', same⟩
        · rw [made, made']
          rfl
        · rw [refused, refused']
          exact congrArg Except.error same
      | _ => rfl
  · rw [ofEntries_of_refused refused, ofEntries_of_refused refused']
    exact congrArg Except.error same

theorem ofEntries_respell (cs : Catalogs) {es : Entries} (once : Config.SpelledOnce es)
    (levels : List (List Setting)) : ReadAlike cs levels es := by
  -- the overrides of an override are the rest of the chain
  generalize chain : Entries.overrideChain es = specs
  have here := once es List.mem_cons_self
  induction specs generalizing es levels with
  | nil =>
    refine readAlike_of_override here levels fun c spec holds => ?_
    rw [Entries.overrideChain_eq, holds] at chain
    cases chain
  | cons first rest inductionHypothesis =>
    refine readAlike_of_override here levels fun c spec holds => ?_
    have isChain := chain
    rw [Entries.overrideChain_eq, holds] at chain
    obtain ⟨rfl, deeper⟩ := List.cons.inj chain
    have onceInside : Config.SpelledOnce spec := by
      intro level inside
      refine once level (List.mem_cons_of_mem _ ?_)
      rw [isChain, ← deeper]
      exact inside
    have onceDeeper := spelledOnce_overrideConfig onceInside c (.list [])
    exact inductionHypothesis onceDeeper _ ((overrideChain_overrideConfig _ _ _).trans deeper)
      (onceDeeper _ List.mem_cons_self)

/-- A criterion in other spellings has the same override criteria, in other spellings in turn, with
any catalogs. -/
theorem override_respell (cs : Catalogs) {c : Criterion} (typed : c.Typed)
    (once : ∀ level ∈ (c.setting .override).overrideChain, Config.SpelledAlike level level)
    (levels : List (List Setting)) (values : Value) :
    ((c.respell levels).override cs values).mapError Fault.unplaced
      = ((c.override cs values).map (respell levels.tail)).mapError Fault.unplaced := by
  rcases typed.override with isNull | ⟨spec, isMap⟩
  · -- without a configuration of its own the override has nothing to respell
    have isNull' : (c.respell levels).setting .override = .null := by
      rw [setting_override_respell, isNull]
      rfl
    have plain : Config.respell levels [] = [] := Config.respell_of_plain levels nofun
    have onceNil : Config.SpelledOnce [] := by
      intro level inside
      rw [List.mem_singleton.1 inside]
      decide
    have alike := ofEntries_respell cs (spelledOnce_overrideConfig onceNil c values) levels
    rw [ReadAlike, ← overrideConfig_respell, plain] at alike
    rwa [override_of_null isNull, override_of_null isNull']
  · have isMap' : (c.respell levels).setting .override = .map (Config.respell levels spec) := by
      rw [setting_override_respell, isMap]
      rfl
    rw [isMap] at once
    have alike := ofEntries_respell cs (spelledOnce_overrideConfig once c values) levels
    rw [ReadAlike, ← overrideConfig_respell] at alike
    rwa [override_of_map isMap, override_of_map isMap']

/-! ## Clauses -/

section

variable (levels : List (List Setting)) (c : Criterion)

theorem mainClause_respell : (c.respell levels).mainClause = c.mainClause := rfl

theorem rangeClause_respell (host : Host) :
    (c.respell levels).rangeClause host = c.rangeClause host := by
  have transformed (raws : List (Bound × Value)) :
      (c.respell levels).transformBounds host raws = c.transformBounds host raws := by
    induction raws with
    | nil => rfl
    | cons first rest inductionHypothesis =>
      rw [transformBounds, transformBounds, inductionHypothesis]
      rfl
  rw [rangeClause, rangeClause, transformed]
  rfl

variable {c}

theorem clause_respell_of_no_override (alone : c.isRange = true ∨ c.marked = []) (host : Host)
    (cs : Catalogs) : (c.respell levels).clause host cs = c.clause host cs := by
  have ranged : (c.respell levels).isRange = c.isRange := rfl
  have marked : (c.respell levels).marked = c.marked := rfl
  rw [clause_eq, clause_eq, rangeClause_respell, mainClause_respell, ranged, marked]
  rcases alone with isRange | allOwn
  · simp only [isRange, if_true]
    rfl
  · simp only [allOwn, if_true]
    rfl

/-- The clause of a criterion does not depend on spellings inside the configuration of its override,
with the catalogs it was made with or with others. -/
theorem clause_respell {cs : Catalogs} (typed : c.Typed) (accepts : c.AcceptsOverrides cs)
    (once : ∀ level ∈ (c.setting .override).overrideChain, Config.SpelledAlike level level)
    (host : Host) (cs' : Catalogs) : (c.respell levels).clause host cs' = c.clause host cs' := by
  by_cases alone : c.isRange = true ∨ c.marked = []
  · exact clause_respell_of_no_override levels alone host cs'
  have marked : (c.respell levels).marked = c.marked := rfl
  rcases unplaced_cases (override_respell cs' typed once levels (.list c.marked)) with
    ⟨o, made, made'⟩ | ⟨fault, fault', refused, refused', same⟩
  · have inner := clause_respell_of_no_override levels.tail (.inr (marked_override made)) host cs'
    rw [clause_eq, clause_eq, rangeClause_respell, mainClause_respell, marked, made, made']
    simp only [Run.ofExcept_ok_bind, inner]
    rfl
  · -- the override was accepted once, so now only a labeller can be missing
    obtain ⟨o, made⟩ := accepts (.list c.marked)
    have sameFault : fault' = fault := by
      rcases override_under_catalogs cs' made with again | ⟨name, known, unknown⟩
      · cases refused.symm.trans again
      · cases refused.symm.trans unknown
        cases fault' <;> cases same
        rfl
    rw [clause_eq, clause_eq, rangeClause_respell, mainClause_respell, marked, refused, refused',
      sameFault]
    rfl

end

end Criterion

/-! ## Construction -/

/-- The spellings of attributes are interchangeable.  A configuration that gives no attribute in
both spellings, at the top or in an override inside it, may be respelled at any levels.  It is
accepted alike, with the same criterion but for the spellings inside the override and with the same
clauses, also with other values and under other catalogs.  Or else it is refused alike: with the
same fault, but for the places of issues, which name keys as they are spelled. -/
theorem Construction.build_respelled (cs : Catalogs) {es : Entries} (once : Config.SpelledOnce es)
    (levels : List (List Setting)) :
    (∀ c, (Construction.ofConfig (.map es)).build cs = .ok c →
      ∃ d, (Construction.ofConfig (.map (Config.respell levels es))).build cs = .ok d ∧
        d.values = c.values ∧
        (∀ s, s ≠ .override → d.setting s = c.setting s) ∧
        d.setting .override = Config.respellSpec levels.tail (c.setting .override) ∧
        (∀ host cs', d.clause host cs' = c.clause host cs') ∧
        ∀ v host cs', (d.setValues v).clause host cs' = (c.setValues v).clause host cs') ∧
    ∀ fault, (Construction.ofConfig (.map es)).build cs = .error fault →
      ∃ fault', (Construction.ofConfig (.map (Config.respell levels es))).build cs
          = .error fault' ∧
        fault'.unplaced = fault.unplaced ∧ fault'.name = fault.name := by
  have alike := Criterion.ofEntries_respell cs once levels
  rcases Criterion.unplaced_cases alike with
    ⟨c, accepted, accepted'⟩ | ⟨fault, fault', refused, refused', same⟩
  · refine ⟨fun c' builds => ?_, fun fault refused => ?_⟩
    · cases accepted.symm.trans builds
      have reads := (Criterion.ofEntries_eq_ok.1 accepted).1
      have typed := Criterion.typed_of_read reads
      have onceInside :
          ∀ level ∈ (c.setting .override).overrideChain, Config.SpelledAlike level level := by
        rw [Config.setting_override_of_read reads, ← Entries.overrideChain_eq]
        exact fun level inside => once level (List.mem_cons_of_mem _ inside)
      have accepts : c.AcceptsOverrides cs := Criterion.override_accepted accepted
      refine ⟨c.respell levels.tail, accepted', rfl, fun s => c.setting_respell _, rfl,
        Criterion.clause_respell _ typed accepts onceInside, fun v => ?_⟩
      have acceptsChanged : (c.setValues v).AcceptsOverrides cs := fun values => by
        rw [Criterion.override_congr (c := c.setValues v) (d := c) fun _ _ => rfl]
        exact accepts values
      rw [Criterion.setValues_respell]
      exact Criterion.clause_respell _ typed acceptsChanged onceInside
    · cases accepted.symm.trans refused
  · refine ⟨fun c builds => ?_, fun fault₀ isFault => ?_⟩
    · cases refused.symm.trans builds
    · cases refused.symm.trans isFault
      refine ⟨fault', refused', same, ?_⟩
      have name (f : Fault) : f.unplaced.name = f.name := by cases f <;> rfl
      rw [← name, same, name]

/-- Three levels, the middle one of which stays as it is. -/
theorem Construction.build_respelled_of_nested :
    let config (combine above deeper : String) : Entries :=
      [("name", "tags"), (.str combine, .bool true), (.str above, .int 1),
        ("values", .list ["a", .map [("key", "b"), ("user_query", .bool true)]]),
        ("user_query", .map [("not", .bool true),
          ("user_query", .map [(.str deeper, "yes"), ("and", .null)])])]
    let es := config "and" "from_" "not"
    let fs := config "and_" "from" "not_"
    Config.SpelledOnce es ∧
    Config.respell [[.combine, .bound .above, .override], [], [.exclude]] es = fs ∧
    ∃ c d, (Construction.ofConfig (.map es)).build .initial = .ok c ∧
      (Construction.ofConfig (.map fs)).build .initial = .ok d ∧
      c.setting .override ≠ d.setting .override ∧
      d.setting .combine = .bool true ∧ d.setting (.bound .above) = .int 1 ∧
      d.clause (Stock.host []) .initial = c.clause (Stock.host []) .initial := by
  intro config es fs
  have once : Config.SpelledOnce es := by decide +kernel
  have respelled :
      Config.respell [[.combine, .bound .above, .override], [], [.exclude]] es = fs := by
    decide +kernel
  have made : ((Construction.ofConfig (.map es)).build .initial).map (fun c =>
      (c.setting .override, c.setting .combine, c.setting (.bound .above)))
        = .ok (get es "user_query", .bool true, .int 1) := by
    decide +kernel
  obtain ⟨c, builds, facts⟩ := Outcome.map_eq_ok.1 made
  simp only [Prod.mk.injEq] at facts
  obtain ⟨override, combine, above⟩ := facts
  obtain ⟨d, builds', _, settings, override', clause, _⟩ :=
    (Construction.build_respelled .initial once _).1 c builds
  rw [respelled] at builds'
  refine ⟨once, respelled, c, d, builds, builds', ?_, ?_, ?_, clause _ _⟩
  · rw [override', override]
    decide +kernel
  · rw [settings .combine nofun, combine]
  · rw [settings (.bound .above) nofun, above]

end Criteria
