import Criteria.Proofs.Clause.Catalogs
import Criteria.Proofs.Labels.Outcome
import Criteria.Stock.Host

/-! # Labellers are found

A labeller is looked up twice: when a criterion with label options is constructed, and when its
values are labelled.

* `Host.Raises` — a fault that something the host brings fails with;
* `Run.FindsLabellers` — a run in which a labeller is missing only for the host.

Changes of a criterion touch neither its label options nor its catalog, so a labeller that was found
at construction is found later, if the catalog was not changed in between.  Without label options
nothing is looked up at construction, and it is only when labels are needed that the default
labeller may turn out to be missing (`label_finds_labeller`).
-/

namespace Criteria

/-! ## Faults of the host -/

/-- A fault that a labeller or an engine of the host fails with, or the making of a labeller. -/
def Host.Raises (host : Host) (fault : Fault) : Prop :=
  (∃ kind arguments, (host.make kind arguments).outcome = .error fault) ∨
    (∃ kind l entries, (host.load kind l entries).run.outcome = .error fault) ∨
    ∃ engine clause, host.search engine clause = .error fault

namespace Stock

theorem family_of_load {kind : String} {l : Labeller} {entries : Value} {fault : Fault}
    (fails : load kind l entries = .error fault) : fault.family? = none := by
  have each {f : Entries → Except Fault Value}
      (plain : ∀ es fault, f es = .error fault → fault.family? = none) {items : List Value}
      (fails : items.mapM (onEntry f) = .error fault) : fault.family? = none := by
    obtain ⟨v, _, fails⟩ := Outcome.mapM_eq_error fails
    cases v with
    | map es => exact plain es fault fails
    | _ =>
      cases fails
      rfl
  have key (es : Entries) (fault : Fault) (fails : requiredKey es = .error fault) :
      fault.family? = none := by
    unfold requiredKey at fails
    split at fails <;> cases fails
    rfl
  unfold load at fails
  split at fails
  · cases fails
    rfl
  · split at fails
    next items _ =>
      unfold loadItems at fails
      split at fails
      case h_1 =>
        exact each (fun es fault fails => key es fault (Outcome.map_eq_error.1 fails)) fails
      case h_2 => exact each (fun es fault fails => by cases fails) fails
      case h_5 =>
        refine each (fun es fault fails => ?_) fails
        have fails := Outcome.map_eq_error.1 fails
        unfold next at fails
        split at fails <;> cases fails
        rfl
      case h_6 => exact each key fails
      all_goals cases fails
      rfl
    next =>
      cases fails
      rfl

/-- The stock host raises none of the faults that criteria raise. -/
theorem family_of_raises {engines : List (String × Engine)} {fault : Fault}
    (raises : (host engines).Raises fault) : fault.family? = none := by
  rcases raises with ⟨kind, arguments, fails⟩ | ⟨kind, l, entries, fails⟩ | ⟨engine, clause, fails⟩
  · change Labeller.ofArguments (.custom kind) arguments = .error fault at fails
    unfold Labeller.ofArguments at fails
    split at fails <;> cases fails
    rfl
  · exact family_of_load fails
  · change (engineNamed engines engine).search clause = .error fault at fails
    unfold Engine.search at fails
    split at fails <;> cases fails
    rfl

end Stock

namespace Run

variable {α β : Type} {host : Host}

/-- A run that does not fail for an unknown labeller, unless the host itself reports one. -/
def FindsLabellers (host : Host) (run : Run α) : Prop :=
  ∀ fault, run.outcome = .error fault → fault.family? = some .unknownLabeller → host.Raises fault

theorem FindsLabellers.of_ok {run : Run α} {a : α} (done : run.outcome = .ok a) :
    run.FindsLabellers host := by
  intro fault failed
  rw [done] at failed
  cases failed

theorem FindsLabellers.fail {fault : Fault} (other : fault.family? ≠ some .unknownLabeller) :
    (fail fault : Run α).FindsLabellers host := by
  rintro _ ⟨⟩ unknown
  exact absurd unknown other

theorem FindsLabellers.bind {x : Run α} {f : α → Run β} (first : x.FindsLabellers host)
    (next : ∀ a, x.outcome = .ok a → (f a).FindsLabellers host) :
    (x >>= f).FindsLabellers host := by
  intro fault failed unknown
  rw [outcome_bind] at failed
  cases done : x.outcome with
  | error fault' =>
    rw [done] at failed
    cases failed
    exact first fault done unknown
  | ok a =>
    rw [done] at failed
    exact next a done fault failed unknown

end Run

open Run

/-! ## The text labeller looks up no labeller -/

theorem Config.family_of_refused {es : Entries} {fault : Fault}
    (refused : Config.read es = .error fault) : fault.family? ≠ some .unknownLabeller := by
  unfold Config.read Config.readEntries at refused
  split at refused
  · cases refused
    nofun
  · split at refused
    next => cases refused
    next =>
      cases refused
      nofun

theorem Criterion.isRange_of_absent {es : Entries} {c : Criterion}
    (reads : Config.read es = .ok c) (absent : Entries.get? es Setting.range.key = none) :
    c.isRange = false := by
  rw [isRange, flag, Config.setting_of_absent reads rfl (by decide) absent]
  rfl

namespace Labels

/-- The query for documents is a criterion by its name and its values alone. -/
theorem query_eq_read (cs : Catalogs) (keyField : Value) (keys : List Value) :
    query cs keyField keys
      = Config.read [(.str Setting.name.key, keyField), (.str valuesKey, .list keys)] :=
  Criterion.ofEntries_of_plain rfl rfl cs

/-- The query compiles, with marked keys or without. -/
theorem query_compiles {cs : Catalogs} {keyField : Value} {keys : List Value} {c : Criterion}
    (made : query cs keyField keys = .ok c) (host : Host) :
    ∃ clause, (c.clause host cs).outcome = .ok clause := by
  have reads := made
  rw [query_eq_read] at reads
  have plain : c.isRange = false := Criterion.isRange_of_absent reads rfl
  obtain ⟨o, accepted⟩ := Criterion.override_accepted made (.list c.marked)
  cases compiled : (c.clause host cs).outcome with
  | ok clause => exact ⟨clause, rfl⟩
  | error fault =>
    rcases (Criterion.typed_of_read reads).clause_eq_error compiled with
      ⟨ranged, _⟩ | ⟨_, _, refused | ⟨o', made', failed⟩⟩
    · rw [plain] at ranged
      cases ranged
    · rw [accepted] at refused
      cases refused
    · -- the override criterion inherits everything, so it is no range either
      have noOverride : c.setting .override = .null :=
        Config.setting_of_absent reads rfl (by decide) rfl
      have inherits := made'
      rw [Criterion.override_of_null noOverride] at inherits
      have readsOverride := (Criterion.ofEntries_eq_ok.1 inherits).1
      have plain' : o'.isRange = false := by
        apply Criterion.isRange_of_absent readsOverride
        rw [Criterion.get?_overrideConfig_nil, if_neg (by decide)]
      rcases (Criterion.typed_of_read readsOverride).clause_eq_error failed with
        ⟨ranged, _⟩ | ⟨_, marked, _⟩
      · rw [plain'] at ranged
        cases ranged
      · exact absurd (Criterion.marked_override made') marked

theorem search_findsLabellers (host : Host) (l : Labeller) (clause : Clause) :
    (search host l clause).FindsLabellers host := by
  unfold search
  split
  next name _ =>
    refine (FindsLabellers.of_ok rfl).bind fun _ _ => ?_
    intro fault failed _
    exact .inr (.inr ⟨name, clause, failed⟩)
  next => exact .fail nofun

theorem documents_findsLabellers (host : Host) (cs : Catalogs) (l : Labeller) (keys : List Value) :
    (documents host cs l keys).FindsLabellers host := by
  unfold documents
  split
  · exact .fail nofun
  · refine FindsLabellers.bind ?_ fun c made => ?_
    · intro fault refused unknown
      rw [Run.ofExcept_outcome, query_eq_read] at refused
      exact absurd unknown (Config.family_of_refused refused)
    · obtain ⟨clause, compiled⟩ := query_compiles made host
      refine (FindsLabellers.of_ok compiled).bind fun clause _ => ?_
      refine (search_findsLabellers host l clause).bind fun found _ => ?_
      split
      · exact .fail nofun
      · exact .of_ok rfl

theorem labelEntries_findsLabellers (host : Host) (l : Labeller) (found entries : List Entries) :
    (labelEntries l found entries).FindsLabellers host := by
  induction entries with
  | nil => exact .of_ok rfl
  | cons es entries inductionHypothesis =>
    have labelled : (labelEntry l found es).FindsLabellers host := by
      unfold labelEntry
      split
      · dsimp only
        split <;> exact .of_ok rfl
      · exact .of_ok rfl
    exact labelled.bind fun _ _ => inductionHypothesis.bind fun _ _ => .of_ok rfl

theorem spreadAll_findsLabellers (host : Host) (values : List Value) :
    (Run.ofExcept (spreadAll values)).FindsLabellers host := by
  induction values with
  | nil => exact .of_ok rfl
  | cons v values inductionHypothesis =>
    intro fault failed unknown
    rw [Run.ofExcept_outcome, spreadAll] at failed
    split at failed
    next es _ =>
      cases rest : spreadAll values with
      | error fault' =>
        rw [rest] at failed
        cases failed
        exact inductionHypothesis fault rest unknown
      | ok others =>
        rw [rest] at failed
        cases failed
    next =>
      cases failed
      cases unknown

theorem loadTexts_findsLabellers (host : Host) (cs : Catalogs) (l : Labeller)
    (values : List Value) : (loadTexts host cs l values).FindsLabellers host := by
  refine (spreadAll_findsLabellers host values).bind fun entries _ => ?_
  split
  · exact .of_ok rfl
  · exact (documents_findsLabellers host cs l _).bind fun found _ =>
      labelEntries_findsLabellers host l found entries

end Labels

namespace Labeller

theorem load_findsLabellers (host : Host) (cs : Catalogs) (l : Labeller) (entries : Value) :
    (l.load host cs entries).run.FindsLabellers host := by
  unfold load
  split
  · dsimp only
    split
    · exact Labels.loadTexts_findsLabellers host cs l _
    · exact .fail nofun
  · exact .fail nofun
  next kind _ =>
    intro fault failed _
    exact .inr (.inl ⟨kind, l, entries, failed⟩)

/-- Only the host can miss a labeller when one is made. -/
theorem make_eq_unknownLabeller {host : Host} {kind : LabellerKind} {arguments : Entries}
    {fault : Fault} (refused : (make host kind arguments).outcome = .error fault)
    (unknown : fault.family? = some .unknownLabeller) :
    ∃ name, (host.make name arguments).outcome = .error fault := by
  have bare (refused : ofArguments kind arguments = .error fault) : False := by
    unfold ofArguments at refused
    split at refused
    · cases refused
      cases unknown
    · cases refused
  cases kind with
  | text | abstract => exact (bare refused).elim
  | custom name =>
    refine ⟨name, ?_⟩
    rw [make, Run.outcome_bind] at refused
    cases made : (host.make name arguments).outcome with
    | error fault' =>
      rw [made] at refused
      exact refused
    | ok l =>
      rw [made] at refused
      cases refused

end Labeller

namespace Criterion

/-! ## The labeller of a criterion -/

namespace Typed

variable {c : Criterion} (typed : c.Typed)

include typed

theorem labelOptions : c.labelOptions = .ok (c.labelOptions?.getD .standard) := by
  rcases typed.labels with isNull | ⟨options, isOptions⟩
  · rw [Criterion.labelOptions, flag, labelOptions?, isNull]
    rfl
  · rw [Criterion.labelOptions, flag, labelOptions?, isOptions]
    rfl

theorem labeller (host : Host) (cs : Catalogs) :
    c.labeller host cs =
      let options := c.labelOptions?.getD .standard
      Labeller.create host (c.catalog cs) options.labeller (c.labellerArguments options) := by
  obtain ⟨name, named⟩ : ∃ name, c.catalogName? = some name := by
    rcases typed.catalog with isNull | ⟨name, isCatalog⟩
    · exact ⟨_, by rw [catalogName?, isNull]⟩
    · exact ⟨_, by rw [catalogName?, isCatalog]⟩
  rw [Criterion.labeller, named, typed.labelOptions]
  rfl

theorem labeller_eq_unknownLabeller {host : Host} {cs : Catalogs} {fault : Fault}
    (known : (c.catalog cs).has (c.labelOptions?.getD .standard).labeller = true)
    (refused : (c.labeller host cs).outcome = .error fault)
    (unknown : fault.family? = some .unknownLabeller) :
    ∃ name arguments, (host.make name arguments).outcome = .error fault := by
  obtain ⟨kind, found⟩ := Catalog.resolve_of_has known
  rw [typed.labeller] at refused
  dsimp only at refused
  rw [Labeller.create, found] at refused
  obtain ⟨name, refused⟩ := Labeller.make_eq_unknownLabeller refused unknown
  exact ⟨name, _, refused⟩

theorem labeller_of_unknown {cs : Catalogs}
    (unknown : (c.catalog cs).has (c.labelOptions?.getD .standard).labeller = false)
    (host : Host) : c.labeller host cs = Run.fail
      (.unknownLabeller (.str (c.labelOptions?.getD .standard).labeller) (c.catalog cs).names) := by
  rw [typed.labeller]
  dsimp only
  rw [Labeller.create, Catalog.resolve_of_not_has unknown]
  rfl

end Typed

/-! ## Labelling -/

/-- A labelling that fails for an unknown labeller got none, or had one and was told so by the
host. -/
theorem label_eq_unknownLabeller {host : Host} {cs : Catalogs} {c : Criterion} {fault : Fault}
    (failed : (c.label host cs).2.outcome = .error fault)
    (unknown : fault.family? = some .unknownLabeller) :
    (c.labeller host cs).outcome = .error fault ∨
      ∃ l, (c.labeller host cs).outcome = .ok l ∧
        (l.load host cs (.list c.values)).run.outcome = .error fault ∧ host.Raises fault := by
  have ends := c.labelsTo_label host cs
  generalize c.label host cs = result at ends failed
  cases ends with
  | kept | replaced => cases failed
  | unmade _ refused =>
    cases failed
    exact .inl refused
  | @failed l _ _ _ made handed fails =>
    cases failed
    subst handed
    exact .inr ⟨l, made, fails, l.load_findsLabellers host cs _ fault fails unknown⟩
  | miscounted =>
    cases failed
    cases unknown

/-- The labeller that a criterion names is known when the criterion is constructed.  As long as its
catalog is not changed, labelling does not miss it, and without label options it does not miss the
default labeller unless the catalog lacks that one from the start: such a fault can only come from
what the host does to make the labeller, or from the labeller itself. -/
theorem label_finds_labeller {cs₀ cs : Catalogs} {c₀ : Criterion}
    (constructed : Constructed cs₀ c₀) (unchanged : c₀.catalog cs = c₀.catalog cs₀)
    (changes : List Change) (host : Host) :
    let c := c₀.changeAll changes
    let catalog := c₀.catalog cs₀
    (∀ options, c₀.labelOptions? = some options → catalog.has options.labeller = true) ∧
    (c₀.setting .labels ≠ .null ∨ catalog.has Labels.defaultLabeller = true →
      ∀ fault, (c.label host cs).2.outcome = .error fault →
        fault.family? = some .unknownLabeller → host.Raises fault ∧
          ((∃ name arguments, (host.make name arguments).outcome = .error fault ∧
              (c.labeller host cs).outcome = .error fault) ∨
            ∃ l, (c.labeller host cs).outcome = .ok l ∧
              (l.load host cs (.list c.values)).run.outcome = .error fault)) ∧
    (c₀.setting .labels = .null → catalog.has Labels.defaultLabeller = false →
      c.needsLabels = true →
        (c.label host cs).2.outcome
          = .error (.unknownLabeller (.str Labels.defaultLabeller) catalog.names)) := by
  intro c catalog
  obtain ⟨es, accepted⟩ := constructed.accepted
  have known := checkLabeller_eq_ok.1 (ofEntries_eq_ok.1 accepted).2.1
  have typed : c.Typed := constructed.typed.changeAll changes
  -- both settings that decide about the labeller are fixed
  have sameOptions : c.labelOptions? = c₀.labelOptions? := by
    rw [labelOptions?, labelOptions?, setting_changeAll c₀ changes (by decide)]
  have sameCatalog : c.catalog cs = catalog := by
    rw [Criterion.catalog, catalogName?, setting_changeAll c₀ changes (by decide)]
    exact unchanged
  refine ⟨known, fun has fault failed unknown => ?_, fun noLabels lacks needed => ?_⟩
  · have found : (c.catalog cs).has (c.labelOptions?.getD .standard).labeller = true := by
      rw [sameOptions, sameCatalog]
      rcases constructed.typed.labels with isNull | ⟨options, isOptions⟩
      · -- without options the default labeller is sought, which nothing has checked yet
        rw [labelOptions?, isNull]
        exact has.resolve_left (absurd isNull)
      · rw [labelOptions?, isOptions]
        exact known options (by rw [labelOptions?, isOptions])
    rcases label_eq_unknownLabeller failed unknown with refused | ⟨l, made, stops, raised⟩
    · obtain ⟨name, arguments, raised⟩ := typed.labeller_eq_unknownLabeller found refused unknown
      exact ⟨.inl ⟨name, arguments, raised⟩, .inl ⟨name, arguments, raised, refused⟩⟩
    · exact ⟨raised, .inr ⟨l, made, stops⟩⟩
  · have noOptions : c.labelOptions? = none := by
      rw [sameOptions, labelOptions?, noLabels]
    have missing := @Typed.labeller_of_unknown c typed cs
    rw [noOptions, sameCatalog] at missing
    have unmade := congrArg Run.outcome (missing lacks host)
    exact congrArg (·.2.outcome) (label_of_unmade needed unmade)

theorem label_finds_labeller_of_own :
    let host := Stock.host []
    let cs₀ := Catalogs.initial.set "own" (.ofList [("companies", .custom "suffix")])
    let cs := cs₀.modify Catalogs.standardName (·.erase Labels.defaultLabeller)
    let changes : List Change := [.setValues (.list [.map [("key", "1")]])]
    ∃ c d, Constructed cs₀ c ∧ Constructed cs₀ d ∧
      (c.catalog cs₀).has "companies" = true ∧
      ((c.changeAll changes).label host cs).2.outcome = .ok true ∧
      ((d.changeAll changes).label host cs).2.outcome
        = .error (.unknownLabeller "text" ["companies"]) := by
  intro host cs₀ cs changes
  let build (settings : Entries) := (Construction.ofConfig
    (.map ((.str "name", .str "company") :: (.str "resolvers", .catalog "own") :: settings))).build
      cs₀
  have found : (build [("lookup", .map [("resolver", "companies")])]).map (fun c =>
      (c.labelOptions?, c.catalogName?, ((c.changeAll changes).label host cs).2.outcome))
        = .ok (some ⟨none, none, "companies"⟩, some "own", .ok true) := by
    decide +kernel
  have missed : (build []).map (fun d =>
      (d.setting .labels, d.catalogName?, (d.changeAll changes).needsLabels))
        = .ok (.null, some "own", true) := by
    decide +kernel
  obtain ⟨c, builds, facts⟩ := Outcome.map_eq_ok.1 found
  obtain ⟨d, builds', facts'⟩ := Outcome.map_eq_ok.1 missed
  simp only [Prod.mk.injEq] at facts facts'
  obtain ⟨options, ownCatalog, labelled⟩ := facts
  obtain ⟨noLabels, ownCatalog', needed⟩ := facts'
  have same : c.catalog cs = c.catalog cs₀ := by
    rw [Criterion.catalog, Criterion.catalog, ownCatalog]
    rfl
  have same' : d.catalog cs = d.catalog cs₀ := by
    rw [Criterion.catalog, Criterion.catalog, ownCatalog']
    rfl
  have constructed : Constructed cs₀ c := .built builds
  have constructed' : Constructed cs₀ d := .built builds'
  have lacks : (d.catalog cs₀).has Labels.defaultLabeller = false := by
    rw [Criterion.catalog, ownCatalog']
    decide +kernel
  have names : (d.catalog cs₀).names = ["companies"] := by
    rw [Criterion.catalog, ownCatalog']
    decide +kernel
  refine ⟨c, d, constructed, constructed', ?_, labelled, ?_⟩
  · exact (label_finds_labeller constructed same changes host).1 _ options
  · rw [← names]
    exact (label_finds_labeller constructed' same' changes host).2.2 noLabels lacks needed

/-- A criterion without label options is constructed although its catalog lacks the labeller that
it needs later. -/
theorem labeller_missed_without_options :
    ∃ (cs : Catalogs) (c : Criterion), Constructed cs c ∧
      (c.label (Stock.host []) cs).2.outcome = .error (.unknownLabeller "text" []) := by
  let cs := Catalogs.initial.set "own" .empty
  let config : Value := .map [("name", "author"), ("resolvers", .catalog "own"),
    ("values", .list [.map [("key", "1")]])]
  have made : ((Construction.ofConfig config).build cs).map (fun c =>
      (c.label (Stock.host []) cs).2.outcome) = .ok (.error (.unknownLabeller "text" [])) := by
    decide +kernel
  obtain ⟨c, builds, missed⟩ := Outcome.map_eq_ok.1 made
  exact ⟨cs, c, .built builds, missed⟩

end Criterion

end Criteria
