import Criteria.Proofs.Labels.Bindings
import Criteria.Proofs.Session.Evolution
import Criteria.Stock.Host

/-! # Names of labellers in a session

Catalogs may change between any two commands.  What a name of a labeller stands for is looked up
when a command gets to it, and it is the last command about this very name that decides.

* `Command.binds?` — what a command says that a name stands for;
* `Session.bound` — what a name stands for after some commands;
* `Session.Answers` — what is answered to the questions about a name;
* `Session.Reads` — commands that construct a criterion from a configuration;
* `Criterion.TakesLabeller` — the name that a criterion looks up, and where.

`catalogs_step` says what one command does to the catalogs, and `get?_run` what all of them do to
one name.
-/

namespace Criteria

open Entries

/-- What a command has a name stand for in a catalog: a labeller, or none, if it says anything about
this name. -/
def Command.binds? (catalog name : String) : Command → Option (Option LabellerKind)
  | .register catalog' name' kind =>
    if catalog' = catalog ∧ name' = name then some (some kind) else none
  | .unregister catalog' name' => if catalog' = catalog ∧ name' = name then some none else none
  | _ => none

/-- The names in a catalog are in strict order, so none is listed twice. -/
theorem Catalog.pairwise_names (c : Catalog) : c.names.Pairwise (· < ·) := by
  have sorted : c.names.Pairwise (· ≤ ·) := Text.pairwise_sortWords _
  have distinct : c.names.Nodup := (Text.sortWords_perm _).nodup_iff.2 c.nodup
  exact (sorted.and distinct).imp fun both => Std.lt_of_le_of_ne both.1 both.2

namespace Session

/-- What a name stands for in a catalog after some commands: what the last of those about it says,
or what it stood for before. -/
def bound (s : Session) (commands : List Command) (catalog name : String) : Option LabellerKind :=
  (commands.filterMap (Command.binds? catalog name)).getLast?.getD
    ((s.catalogs.get catalog).get? name)

variable (host : Host) (s : Session)

/-! ## Catalogs -/

section

variable {host} {s}

theorem catalogs_withCriterion {id : String} {f : Criterion → Session × Answer}
    (next : ∀ c, (f c).1.catalogs = s.catalogs) :
    (s.withCriterion id f).1.catalogs = s.catalogs := by
  unfold withCriterion
  split
  · exact next _
  · rfl

theorem catalogs_withGiven {α : Type} {given : Given α} {f : α → Session × Answer}
    (next : ∀ a, (f a).1.catalogs = s.catalogs) :
    (s.withGiven given f).1.catalogs = s.catalogs := by
  unfold withGiven
  split
  · exact next _
  · rfl

end

theorem catalogs_step (command : Command) :
    (s.step host command).1.catalogs = match command with
      | .register catalog name kind => s.catalogs.modify catalog (·.insert name kind)
      | .unregister catalog name => s.catalogs.modify catalog (·.erase name)
      | _ => s.catalogs := by
  cases command with
  | construct | resolve => rw [step]; split <;> rfl
  | assign | override =>
    refine catalogs_withCriterion fun c => catalogs_withGiven fun v => ?_
    split <;> rfl
  | setValues => exact catalogs_withCriterion fun c => catalogs_withGiven fun v => rfl
  | chain | label => exact catalogs_withCriterion fun c => rfl
  | compile | summary | isBlank | needsLabels | catalog | view | state | dump =>
    exact catalogs_withCriterion fun c => rfl
  | register | unregister | names | has | get => rfl
  | create | misnamed => exact catalogs_withGiven fun a => rfl

theorem get?_modify {f : Catalog → Catalog} {catalog' name name' : String}
    {said : Option LabellerKind}
    (changes : ∀ c : Catalog, (f c).get? name = if name = name' then said else c.get? name)
    (cs : Catalogs) (catalog : String) :
    ((cs.modify catalog' f).get catalog).get? name =
      (if catalog' = catalog ∧ name' = name then some said else none).getD
        ((cs.get catalog).get? name) := by
  rw [Catalogs.get_modify]
  by_cases sameCatalog : catalog = catalog'
  · rw [if_pos sameCatalog, changes, sameCatalog]
    by_cases sameName : name = name'
    · rw [if_pos sameName, if_pos ⟨rfl, sameName.symm⟩]
      rfl
    · rw [if_neg sameName, if_neg fun same => sameName same.2.symm]
      rfl
  · rw [if_neg sameCatalog, if_neg fun same => sameCatalog same.1.symm]
    rfl

/-- A command changes what a name stands for only if it is about this name in this catalog. -/
theorem get?_step (command : Command) (catalog name : String) :
    ((s.step host command).1.catalogs.get catalog).get? name =
      (command.binds? catalog name).getD ((s.catalogs.get catalog).get? name) := by
  rw [catalogs_step]
  cases command with
  | register catalog' name' kind =>
    exact get?_modify (fun c => c.get?_insert name' kind name) s.catalogs catalog
  | unregister catalog' name' =>
    exact get?_modify (fun c => c.get?_erase name' name) s.catalogs catalog
  | _ => rfl

theorem get?_run (commands : List Command) (catalog name : String) :
    ((s.run host commands).1.catalogs.get catalog).get? name = s.bound commands catalog name := by
  induction commands generalizing s with
  | nil => rfl
  | cons command commands inductionHypothesis =>
    refine (inductionHypothesis (s.step host command).1).trans ?_
    -- the last command that says something is among the others, or else it is the first one
    rw [bound, bound, get?_step, List.filterMap_cons]
    cases command.binds? catalog name with
    | none => rfl
    | some said => rw [List.getLast?_cons, Option.getD_some, Option.getD_some]

/-- A catalog lists the names that stand for something after the commands. -/
theorem mem_names_run (commands : List Command) (catalog name : String) :
    name ∈ ((s.run host commands).1.catalogs.get catalog).names
      ↔ (s.bound commands catalog name).isSome = true := by
  rw [Catalog.mem_names, Catalog.has_eq_isSome, get?_run]

/-! ## Questions about a name -/

/-- What a session answers about a name that stands for `found` in a catalog. -/
structure Answers (catalog name : String) (found : Option LabellerKind) : Prop where
  has : s.step host (.has catalog name) = (s, .result (.bool found.isSome))
  names : ∃ names, s.step host (.names catalog) = (s, .names names) ∧
    (name ∈ names ↔ found.isSome = true)
  get : s.step host (.get catalog name) = (s, .kind found)
  resolved : ∀ kind, found = some kind →
    s.step host (.resolve catalog name) = (s, .kind (some kind))
  refused : found = none → s.step host (.resolve catalog name)
    = (s, .fault (.unknownLabeller (.str name) (s.catalogs.get catalog).names))

theorem answers (catalog name : String) :
    s.Answers host catalog name ((s.catalogs.get catalog).get? name) where
  has := by rw [step, Catalog.has_eq_isSome]
  names := ⟨_, rfl, by rw [Catalog.mem_names, Catalog.has_eq_isSome]⟩
  get := rfl
  resolved kind isBound := by rw [step, Catalog.resolve, isBound]
  refused isUnbound := by
    have unknown : (s.catalogs.get catalog).has name = false := by
      rw [Catalog.has_eq_isSome, isUnbound]
      rfl
    rw [step, Catalog.resolve_of_not_has unknown]

/-! ## Constructions -/

/-- Commands that construct a criterion from the entries of a configuration. -/
inductive Reads : Command → Entries → Prop where
  | construct {id : String} {k : Construction} {es : Entries} (config : k.config = .ok (.map es)) :
      Reads (.construct id (.ok k)) es
  | override {id target : String} {c : Criterion} {values : Value} {spec : Entries}
      (isThere : s.criteria id = some c) (isSpec : c.overrideSpec = .ok spec) :
      Reads (.override id (.ok values) target) (c.overrideConfig spec values)

variable {s}

theorem Reads.answer {command : Command} {es : Entries} (reads : s.Reads command es) :
    (s.step host command).2 = match Criterion.ofEntries s.catalogs es with
      | .ok c => .state c
      | .error fault => .fault fault := by
  cases reads with
  | @construct id k es config =>
    have builds : k.build s.catalogs = Criterion.ofEntries s.catalogs es := by
      rw [Construction.build, config]
      rfl
    simp only [step, Except.bind, builds]
    cases Criterion.ofEntries s.catalogs es <;> rfl
  | @override id target c values spec isThere isSpec =>
    have makes : c.override s.catalogs values
        = Criterion.ofEntries s.catalogs (c.overrideConfig spec values) := by
      rw [Criterion.override, isSpec]
      rfl
    simp only [step, withCriterion, withGiven, isThere, makes]
    cases Criterion.ofEntries s.catalogs (c.overrideConfig spec values) <;> rfl

theorem Reads.answer_of_named {command : Command} {es : Entries} {name : String}
    (reads : s.Reads command es) (noStray : Config.strayOptions es = []) (valid : Config.Valid es)
    (alone : get es "user_query" = .null) (named : Config.labeller? es = some name) :
    let catalog := s.catalogs.get (Config.catalogName es)
    ∃ c, Config.read es = .ok c ∧
      (∀ kind, catalog.get? name = some kind → (s.step host command).2 = .state c) ∧
      (catalog.get? name = none →
        (s.step host command).2 = .fault (.unknownLabeller (.str name) catalog.names)) := by
  intro catalog
  obtain ⟨c, described⟩ := Config.read_of_valid (Config.strayLabelKeys_eq_nil.2 noStray) valid
  have outcome := Criterion.ofEntries_of_named described named alone s.catalogs
  refine ⟨c, described, fun kind isBound => ?_, fun isUnbound => ?_⟩
  · have known : catalog.has name = true := by
      rw [Catalog.has_eq_isSome, isBound]
      rfl
    rw [reads.answer, outcome]
    dsimp only
    rw [if_pos known]
  · have unknown : catalog.has name = false := by
      rw [Catalog.has_eq_isSome, isUnbound]
      rfl
    rw [reads.answer, outcome]
    dsimp only
    rw [unknown, if_neg nofun]

end Session

/-! ## Labellings -/

/-- The name of the labeller that a criterion looks up, and the name of the catalog it looks it up
in: the standard ones where its settings say nothing. -/
structure Criterion.TakesLabeller (c : Criterion) (catalog name : String) : Prop where
  catalog : c.setting .catalog = .catalog catalog ∨
    c.setting .catalog = .null ∧ catalog = Catalogs.standardName
  name : (∃ options : Labels.Options,
      c.setting .labels = .options options ∧ options.labeller = name) ∨
    c.setting .labels = .null ∧ name = Labels.defaultLabeller

namespace Criterion.TakesLabeller

variable {c : Criterion} {catalog name : String} (takes : c.TakesLabeller catalog name)

include takes

theorem catalogName_eq : c.catalogName? = some catalog := by
  rw [catalogName?]
  rcases takes.catalog with isCatalog | ⟨isNull, rfl⟩
  · rw [isCatalog]
  · rw [isNull]

theorem catalog_eq (cs : Catalogs) : c.catalog cs = cs.get catalog := by
  rw [Criterion.catalog, takes.catalogName_eq, Option.getD_some]

theorem labeller_eq : (c.labelOptions?.getD .standard).labeller = name := by
  rw [labelOptions?]
  rcases takes.name with ⟨options, isOptions, rfl⟩ | ⟨isNull, rfl⟩
  · rw [isOptions]
    rfl
  · rw [isNull]
    rfl

theorem unique {catalog' name' : String} (takes' : c.TakesLabeller catalog' name') :
    catalog' = catalog ∧ name' = name :=
  ⟨Option.some.inj (takes'.catalogName_eq.symm.trans takes.catalogName_eq),
    takes'.labeller_eq.symm.trans takes.labeller_eq⟩

end Criterion.TakesLabeller

theorem Criterion.Typed.takesLabeller {c : Criterion} (typed : c.Typed) :
    ∃ catalog name, c.TakesLabeller catalog name := by
  have catalog : ∃ catalog, c.setting .catalog = .catalog catalog ∨
      c.setting .catalog = .null ∧ catalog = Catalogs.standardName := by
    rcases typed.catalog with isNull | ⟨catalog, isCatalog⟩
    · exact ⟨_, .inr ⟨isNull, rfl⟩⟩
    · exact ⟨catalog, .inl isCatalog⟩
  obtain ⟨catalog, isCatalog⟩ := catalog
  rcases typed.labels with isNull | ⟨options, isOptions⟩
  · exact ⟨catalog, _, isCatalog, .inr ⟨isNull, rfl⟩⟩
  · exact ⟨catalog, _, isCatalog, .inl ⟨options, isOptions, rfl⟩⟩

namespace Session

variable (host : Host) (s : Session)

/-- How a session labels a criterion that needs labels, when the name that the criterion looks up
stands for `found`: as that kind of labeller does, whatever else is in the catalogs, or not at
all. -/
structure LabelsAs (c : Criterion) (catalog name : String) (found : Option LabellerKind) :
    Prop where
  labeller : ∀ kind, found = some kind → c.labeller host s.catalogs
    = Labeller.make host kind (c.labellerArguments (c.labelOptions?.getD .standard))
  alike : ∀ kind cs, found = some kind → (cs.get catalog).get? name = some kind →
    c.label host cs = c.label host s.catalogs
  faults : ∀ kind fault, found = some kind →
    (c.label host s.catalogs).2.outcome = .error fault → fault.family? = some .unknownLabeller →
      host.Raises fault
  refused : found = none → c.label host s.catalogs
    = (c, ⟨[], .error (.unknownLabeller (.str name) (s.catalogs.get catalog).names)⟩)

theorem labelsAs {c : Criterion} (typed : c.Typed) (needed : c.needsLabels = true)
    {catalog name : String} (takes : c.TakesLabeller catalog name) :
    s.LabelsAs host c catalog name ((s.catalogs.get catalog).get? name) := by
  have looked (cs : Catalogs) :
      (c.catalog cs).get? (c.labelOptions?.getD .standard).labeller
        = (cs.get catalog).get? name := by
    rw [takes.catalog_eq, takes.labeller_eq]
  refine ⟨fun kind isBound => ?_, fun kind cs isBound isBound' => ?_,
    fun kind fault isBound failed unknown => ?_, fun isUnbound => ?_⟩
  · exact typed.labeller_of_bound ((looked s.catalogs).trans isBound) host
  · exact typed.label_of_bound ((looked s.catalogs).trans isBound) ((looked cs).trans isBound') host
  · rcases Criterion.label_eq_unknownLabeller failed unknown with refused | ⟨_, _, _, raised⟩
    · have known : (c.catalog s.catalogs).has (c.labelOptions?.getD .standard).labeller = true := by
        rw [Catalog.has_eq_isSome, looked, isBound]
        rfl
      exact .inl (typed.labeller_eq_unknownLabeller known refused unknown)
    · exact raised
  · have refused := typed.label_of_unbound needed ((looked s.catalogs).trans isUnbound) host
    rw [takes.labeller_eq, takes.catalog_eq] at refused
    exact refused

theorem LabelsAs.misses_iff {host : Host} {s : Session} {c : Criterion} {catalog name : String}
    {found : Option LabellerKind} (labels : s.LabelsAs host c catalog name found)
    (quiet : ∀ fault, host.Raises fault → fault.family? ≠ some .unknownLabeller) :
    (∃ fault, (c.label host s.catalogs).2.outcome = .error fault ∧
      fault.family? = some .unknownLabeller) ↔ found = none := by
  constructor
  · rintro ⟨fault, failed, unknown⟩
    cases found with
    | none => rfl
    | some kind => exact absurd unknown (quiet fault (labels.faults kind fault rfl failed unknown))
  · intro isUnbound
    rw [labels.refused isUnbound]
    exact ⟨_, rfl, rfl⟩

theorem step_label_of_isThere {id : String} {c : Criterion} (isThere : s.criteria id = some c) :
    (s.step host (.label id)).2
      = .labelled (c.label host s.catalogs).2 (c.label host s.catalogs).1.values := by
  rw [step, withCriterion, isThere]

/-- After any run of commands, what is answered about a name in a catalog is determined by the last
command about it.  So is the outcome of a construction from a valid configuration that names a
labeller and has no override, and of a labelling, unless attributes were assigned directly: it is
the kind of labeller last registered that counts, and if there is none, the fault lists in order the
names that there are. -/
theorem run_bindings (host : Host) (s₀ : Session) (commands : List Command) :
    let s := (s₀.run host commands).1
    let bound := s₀.bound commands
    let names := fun catalog => (s.catalogs.get catalog).names
    (∀ catalog, (names catalog).Pairwise (· < ·) ∧
      ∀ name, name ∈ names catalog ↔ (bound catalog name).isSome = true) ∧
    (∀ catalog name, s.Answers host catalog name (bound catalog name)) ∧
    (∀ command es name, s.Reads command es → Config.strayOptions es = [] → Config.Valid es →
      get es "user_query" = .null → Config.labeller? es = some name →
        let catalog := Config.catalogName es
        ∃ c, Config.read es = .ok c ∧
          (∀ kind, bound catalog name = some kind → (s.step host command).2 = .state c) ∧
          (bound catalog name = none →
            (s.step host command).2 = .fault (.unknownLabeller (.str name) (names catalog)))) ∧
    ∀ id c, s₀.EvolvedAt id → (∀ command ∈ commands, ¬ command.Assigns id) →
      s.criteria id = some c → c.needsLabels = true →
        ∃ catalog name, c.TakesLabeller catalog name ∧
          s.LabelsAs host c catalog name (bound catalog name) ∧
          (s.step host (.label id)).2
            = .labelled (c.label host s.catalogs).2 (c.label host s.catalogs).1.values ∧
          ((∀ fault, host.Raises fault → fault.family? ≠ some .unknownLabeller) →
            ((∃ fault, (c.label host s.catalogs).2.outcome = .error fault ∧
              fault.family? = some .unknownLabeller) ↔ bound catalog name = none)) := by
  intro s bound names
  have isBound (catalog name : String) :
      (s.catalogs.get catalog).get? name = bound catalog name :=
    get?_run host s₀ commands catalog name
  refine ⟨fun catalog => ⟨(s.catalogs.get catalog).pairwise_names, fun name => ?_⟩,
    fun catalog name => ?_, fun command es name reads noStray valid alone named => ?_,
    fun id c evolved unassigned isThere needed => ?_⟩
  · rw [Catalog.mem_names, Catalog.has_eq_isSome, isBound]
  · rw [← isBound]
    exact s.answers host catalog name
  · obtain ⟨c, described, found, missing⟩ :=
      reads.answer_of_named host noStray valid alone named
    rw [isBound] at missing
    exact ⟨c, described, fun kind same => found kind ((isBound _ _).trans same), missing⟩
  · have typed := (evolved.run host unassigned c isThere).typed
    obtain ⟨catalog, name, takes⟩ := typed.takesLabeller
    have labels := s.labelsAs host typed needed takes
    rw [isBound] at labels
    exact ⟨catalog, name, takes, labels, s.step_label_of_isThere host isThere, labels.misses_iff⟩

theorem run_bindings_of_replaced :
    let host := Stock.host []
    let config : Entries := [("name", "author"), ("resolvers", .catalog "own"),
      ("lookup", .map [("resolver", "people")]), ("values", .list [.map [("key", "1")]])]
    let commands : List Command := [.register "own" "people" .text,
      .construct "c" (.ok (.ofConfig (.map config))), .register "own" "people" (.custom "suffix"),
      .setValues "c" (.ok (.list [.map [("key", "2")]])), .register "other" "people" .abstract,
      .construct "d" (.ok (.ofConfig (.map
        [("name", "reader"), ("values", .list [.map [("key", "1")]])]))),
      .unregister "default" "text"]
    let s := (Session.initial.run host commands).1
    let misses := fun c : Criterion => ∃ fault,
      (c.label host s.catalogs).2.outcome = .error fault ∧ fault.family? = some .unknownLabeller
    Session.initial.bound commands "own" "people" = some (.custom "suffix") ∧
      Session.initial.bound commands "default" "text" = none ∧
      (∃ c, Config.read config = .ok c ∧
        (s.step host (.construct "e" (.ok (.ofConfig (.map config))))).2 = .state c) ∧
      (∃ c, s.criteria "c" = some c ∧ c.needsLabels = true ∧ c.TakesLabeller "own" "people" ∧
        s.LabelsAs host c "own" "people" (some (.custom "suffix")) ∧ ¬ misses c) ∧
      ∃ d, s.criteria "d" = some d ∧ d.TakesLabeller "default" "text" ∧ misses d := by
  intro host config commands s misses
  have isBound : Session.initial.bound commands "own" "people" = some (.custom "suffix") := by
    decide +kernel
  have isUnbound : Session.initial.bound commands "default" "text" = none := by decide +kernel
  have evolved (id : String) : Session.initial.EvolvedAt id := nofun
  have unassigned (id : String) : ∀ command ∈ commands, ¬ command.Assigns id := by
    simp [commands, Command.Assigns]
  have quiet (fault : Fault) (raises : host.Raises fault) :
      fault.family? ≠ some .unknownLabeller := by
    rw [Stock.family_of_raises raises]
    nofun
  have reads : s.Reads (.construct "e" (.ok (.ofConfig (.map config)))) config := .construct rfl
  have valid : Config.Valid config := Config.issues_eq_nil_iff_valid.1 (by decide +kernel)
  have made : (s.criteria "c").map (fun c => (c.needsLabels, c.setting .catalog, c.setting .labels))
      = some (true, .catalog "own", .options ⟨none, none, "people"⟩) := by
    decide +kernel
  have other :
      (s.criteria "d").map (fun d => (d.needsLabels, d.setting .catalog, d.setting .labels))
      = some (true, .null, .null) := by
    decide +kernel
  obtain ⟨c, isThere, facts⟩ := Option.map_eq_some_iff.1 made
  obtain ⟨d, isThere', facts'⟩ := Option.map_eq_some_iff.1 other
  simp only [Prod.mk.injEq] at facts facts'
  obtain ⟨needed, isCatalog, isOptions⟩ := facts
  obtain ⟨needed', noCatalog, noOptions⟩ := facts'
  have takes : c.TakesLabeller "own" "people" := ⟨.inl isCatalog, .inl ⟨_, isOptions, rfl⟩⟩
  have takes' : d.TakesLabeller "default" "text" :=
    ⟨.inr ⟨noCatalog, rfl⟩, .inr ⟨noOptions, rfl⟩⟩
  obtain ⟨_, _, constructs, labels⟩ := run_bindings host Session.initial commands
  obtain ⟨e, described, found, _⟩ := constructs _ config "people" reads rfl valid rfl rfl
  refine ⟨isBound, isUnbound, ⟨e, described, found _ isBound⟩, ?_, ?_⟩
  · obtain ⟨catalog, name, looks, labelled, _, missed⟩ :=
      labels "c" c (evolved "c") (unassigned "c") isThere needed
    obtain ⟨rfl, rfl⟩ := takes.unique looks
    rw [isBound] at labelled missed
    exact ⟨c, isThere, needed, takes, labelled, fun misses => nomatch (missed quiet).1 misses⟩
  · obtain ⟨catalog, name, looks, _, _, missed⟩ :=
      labels "d" d (evolved "d") (unassigned "d") isThere' needed'
    obtain ⟨rfl, rfl⟩ := takes'.unique looks
    exact ⟨d, isThere', takes', (missed quiet).2 isUnbound⟩

end Session

end Criteria
