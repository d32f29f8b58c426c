import Criteria.Proofs.Clause.Safety

/-! # Clauses under other catalogs

What a clause has to do with the catalogs of labellers.

Compilation itself takes no labeller from a catalog.  But the override criterion for marked values
is read again when a criterion is compiled, and reading checks the labellers that are named.  So the
clause stays the same under other catalogs as long as these know the labellers that the overrides
name, at every depth, and otherwise there is no clause any more (`clause_under_catalogs`).  A range
and a criterion without marked values have no override that is read.
-/

namespace Criteria.Criterion

/-! ## Reading under other catalogs -/

/-- Under other catalogs a configuration is accepted as the same criterion, or refused for a
labeller that these do not know. -/
theorem ofEntries_under_catalogs {cs : Catalogs} (cs' : Catalogs) {es : Entries} {c : Criterion}
    (accepted : ofEntries cs es = .ok c) :
    ofEntries cs' es = .ok c ∨
      ∃ name known, ofEntries cs' es = .error (.unknownLabeller (.str name) known) := by
  induction accepted using ofEntries_induction with
  | level es c accepted probes =>
    rw [ofEntries_of_read (ofEntries_eq_ok.1 accepted).1]
    cases checked : c.checkLabeller cs' with
    | error fault =>
      obtain ⟨options, _, _, rfl⟩ := checkLabeller_eq_error checked
      exact .inr ⟨options.labeller, _, rfl⟩
    | ok known =>
      cases holds : c.setting .override with
      | map spec =>
        obtain ⟨o, _, inductionHypothesis⟩ := probes spec holds
        rcases inductionHypothesis with again | ⟨name, known, refused⟩
        · simp only [again]
          exact .inl rfl
        · simp only [refused]
          exact .inr ⟨name, known, rfl⟩
      | _ => exact .inl rfl

theorem override_under_catalogs {cs : Catalogs} (cs' : Catalogs) {c o : Criterion} {values : Value}
    (made : c.override cs values = .ok o) :
    c.override cs' values = .ok o ∨
      ∃ name known, c.override cs' values = .error (.unknownLabeller (.str name) known) := by
  obtain ⟨spec, isSpec, accepted⟩ := override_eq_ok.1 made
  rw [override, isSpec]
  exact ofEntries_under_catalogs cs' accepted

/-- Overrides that other catalogs accept name labellers that these know, at every depth. -/
theorem labellersKept_of_acceptsOverrides {cs cs' : Catalogs} {c : Criterion}
    (accepts : c.AcceptsOverrides cs') : c.LabellersKept cs cs' := by
  have still (o : Criterion) (nests : Nests cs c o) : ∃ es, ofEntries cs' es = .ok o := by
    have again {d o : Criterion} {values : Value} (made : d.override cs values = .ok o)
        (accepts : d.AcceptsOverrides cs') : ∃ es, ofEntries cs' es = .ok o := by
      obtain ⟨o', made'⟩ := accepts values
      rcases override_under_catalogs cs' made with same | ⟨_, _, refused⟩
      · obtain ⟨spec, _, accepted⟩ := override_eq_ok.1 same
        exact ⟨_, accepted⟩
      · rw [made'] at refused
        cases refused
    induction nests with
    | override made => exact again made accepts
    | next _ made inductionHypothesis =>
      obtain ⟨es, accepted⟩ := inductionHypothesis
      exact again made (override_accepted accepted)
  intro o nests options named _
  obtain ⟨es, accepted⟩ := still o nests
  exact checkLabeller_eq_ok.1 (ofEntries_eq_ok.1 accepted).2.1 options named

/-! ## Compilation under other catalogs -/

theorem clause_of_no_override {c : Criterion} (alone : c.isRange = true ∨ c.marked = [])
    (host : Host) (cs cs' : Catalogs) : c.clause host cs' = c.clause host cs := by
  rw [clause_eq, clause_eq]
  rcases alone with ranged | allOwn
  · simp only [ranged, ↓reduceIte]
  · simp only [allOwn, ↓reduceIte]

theorem clause_of_same_override {host : Host} {cs cs' : Catalogs} {c o : Criterion}
    (made : c.override cs (.list c.marked) = .ok o)
    (same : c.override cs' (.list c.marked) = .ok o) : c.clause host cs' = c.clause host cs := by
  -- the override criterion has no marked values, so its own clause takes no catalog
  have inner := clause_of_no_override (.inr (marked_override made)) host cs cs'
  rw [clause_eq, clause_eq, made, same]
  simp only [Run.ofExcept_ok_bind, inner]

/-- The clause of a criterion is the same under catalogs that know the labellers named by its
overrides at every depth, and under all catalogs if it has no override to compile.  Otherwise
compilation fails for a labeller that is not known. -/
theorem clause_under_catalogs {cs cs' : Catalogs} {c : Criterion} (constructed : Constructed cs c)
    (host : Host) :
    (c.isRange = true ∨ c.marked = [] ∨ c.LabellersKept cs cs' →
      c.clause host cs' = c.clause host cs) ∧
    (c.isRange = false → c.marked ≠ [] → ¬ c.LabellersKept cs cs' →
      ∃ name known,
        (c.clause host cs').outcome = .error (.unknownLabeller (.str name) known)) := by
  obtain ⟨es, accepted⟩ := constructed.accepted
  obtain ⟨o, made⟩ := override_accepted accepted (.list c.marked)
  have again := override_under_catalogs cs' made
  constructor
  · rintro (ranged | allOwn | kept)
    · exact clause_of_no_override (.inl ranged) host cs cs'
    · exact clause_of_no_override (.inr allOwn) host cs cs'
    · rcases again with same | ⟨name, known, refused⟩
      · exact clause_of_same_override made same
      · obtain ⟨o', made'⟩ := override_of_kept accepted kept (.list c.marked)
        rw [made'] at refused
        cases refused
  · intro plain marked lost
    rcases again with same | ⟨name, known, refused⟩
    · refine absurd (labellersKept_of_acceptsOverrides fun values => ?_) lost
      rw [override_values cs' c (.list c.marked), same]
      exact ⟨_, rfl⟩
    · refine ⟨name, known, ?_⟩
      rw [outcome_clause, constructed.typed.mainClause, plain, refused, if_neg nofun]
      simp only [Except.bind, if_neg marked]

theorem clause_under_catalogs_of_nested :
    ∃ (cs : Catalogs) (c : Criterion), Constructed cs c ∧ c.marked ≠ [] ∧
      let more := cs.modify "own" (·.insert "people" .text)
      c.clause (Stock.host []) more = c.clause (Stock.host []) cs ∧
      let less := cs.modify "own" (·.erase "companies")
      ∃ name known, (c.clause (Stock.host []) less).outcome
        = .error (.unknownLabeller (.str name) known) := by
  let cs := Catalogs.initial.set "own" (.ofList [("companies", .custom "suffix")])
  let less := cs.modify "own" (·.erase "companies")
  -- the labeller is named by the override of the override
  let inner : Value := .map [("lookup", .map [("resolver", "companies")])]
  let config : Value := .map [("name", "company"), ("resolvers", .catalog "own"),
    ("values", .list [.map [("key", .int 1)], .map [("key", "foo"), ("user_query", .bool true)]]),
    ("user_query", .map [("query_name", "company_name"), ("user_query", inner)])]
  let build := (Construction.ofConfig config).build cs
  have made : build.map (fun c => (c.isRange, c.marked))
      = .ok (false, [.map [("key", "foo")]]) := by
    decide +kernel
  have named : (build.bind fun c => (c.override cs .null).bind fun o => (o.override cs .null).map
      fun o' => (o'.labelOptions?, o'.catalogName?))
        = .ok (some ⟨none, none, "companies"⟩, some "own") := by
    decide +kernel
  obtain ⟨c, builds, facts⟩ := Outcome.map_eq_ok.1 made
  obtain ⟨plain, marked⟩ := Prod.mk.inj facts
  have isMarked : c.marked ≠ [] := by rw [marked]; nofun
  have constructed : Constructed cs c := .built builds
  rw [builds] at named
  obtain ⟨_, ⟨⟩, named⟩ := Outcome.bind_eq_ok.1 named
  obtain ⟨o, outer, named⟩ := Outcome.bind_eq_ok.1 named
  obtain ⟨o', inner, named⟩ := Outcome.map_eq_ok.1 named
  obtain ⟨options, catalog⟩ := Prod.mk.inj named
  have lost : ¬ c.LabellersKept cs less := by
    intro kept
    have known := kept o' ((Nests.override outer).next inner) _ options
    rw [Criterion.catalog, Criterion.catalog, catalog] at known
    exact absurd (known (by decide +kernel)) (by decide +kernel)
  exact ⟨cs, c, constructed, isMarked,
    (clause_under_catalogs constructed _).1 (.inr (.inr (.of_insert cs c _ _ _))),
    (clause_under_catalogs constructed _).2 plain isMarked lost⟩

/-- A clause is not a function of the criterion alone: it is lost when a labeller that the override
names is removed from its catalog. -/
theorem clause_lost_with_labeller :
    ∃ (cs : Catalogs) (c : Criterion), Constructed cs c ∧
      (c.clause (Stock.host []) cs).outcome.toBool = true ∧
      (c.clause (Stock.host []) (cs.modify "own" (·.erase "companies"))).outcome
        = .error (.unknownLabeller "companies" []) := by
  let cs := Catalogs.initial.set "own" (.ofList [("companies", .custom "suffix")])
  let spec : Value := .map [("query_name", "company_name"),
    ("lookup", .map [("resolver", "companies")])]
  let config : Value := .map [("name", "company"), ("resolvers", .catalog "own"),
    ("user_query", spec),
    ("values", .list [.map [("key", .int 1)], .map [("key", "foo"), ("user_query", .bool true)]])]
  have made : ((Construction.ofConfig config).build cs).map (fun c =>
      ((c.clause (Stock.host []) cs).outcome.toBool,
        (c.clause (Stock.host []) (cs.modify "own" (·.erase "companies"))).outcome))
        = .ok (true, .error (.unknownLabeller "companies" [])) := by
    decide +kernel
  obtain ⟨c, builds, facts⟩ := Outcome.map_eq_ok.1 made
  obtain ⟨compiles, fails⟩ := Prod.mk.inj facts
  exact ⟨cs, c, .built builds, compiles, fails⟩

end Criteria.Criterion
