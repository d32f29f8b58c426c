import Criteria.Proofs.Clause.Labelling

/-! # Labelling is atomic

A labelling writes a criterion at most once, and not before everything has succeeded: it replaces
the values by as many others and touches nothing else.

* `Run.searches` — the searches that a run makes;
* `Run.SearchesAtMost` — a bound on their number, which adds up when one run follows another;
* `Criterion.hostSearches` — those that a labeller of the host makes on its own;
* `Labeller.LeavesEntries`, `Labeller.LeavesCount` — labellers that leave the entries that they are
  handed as they are, or at least as many;
* `Criterion.label_atomic` — the criterion after a labelling.

A labeller has the values in its hands before the criterion is written.  By its contract it reads
them and gives entries back, and its load counts as atomic; the built-in ones write nowhere.  A
labeller of the host that writes into the list it was handed all the same has changed the values by
then, and a failure does not take that back.

Compilation makes no search, so the text labeller makes the one search for its documents, and none
when all entries have their labels.
-/

namespace Criteria

/-! ## The searches of a run -/

/-- The search that an event reports, with its engine. -/
def Event.search? : Event → Option (String × Clause)
  | .searched engine clause => some (engine, clause)
  | .transformed _ _ | .compiled _ | .unlabelled _ _ _ _ => none

namespace Run

variable {α β : Type}

/-- The searches that a run makes, in order. -/
def searches (run : Run α) : List (String × Clause) :=
  run.log.filterMap Event.search?

def SearchesAtMost (n : Nat) (run : Run α) : Prop :=
  run.searches.length ≤ n

theorem SearchesAtMost.pure (a : α) : SearchesAtMost 0 (pure a : Run α) := Nat.le_refl 0

theorem SearchesAtMost.fail (fault : Fault) : SearchesAtMost 0 (fail fault : Run α) := Nat.le_refl 0

theorem SearchesAtMost.ofExcept (outcome : Except Fault α) : SearchesAtMost 0 (ofExcept outcome) :=
  Nat.le_refl 0

theorem SearchesAtMost.note {event : Event} (other : event.search? = none) :
    SearchesAtMost 0 (note event) := by
  simp [SearchesAtMost, searches, other]

theorem SearchesAtMost.mono {m n : Nat} {run : Run α} (bounded : SearchesAtMost m run)
    (le : m ≤ n) : SearchesAtMost n run :=
  Nat.le_trans bounded le

theorem SearchesAtMost.bind {m n : Nat} {x : Run α} {f : α → Run β} (first : SearchesAtMost m x)
    (next : ∀ a, SearchesAtMost n (f a)) : SearchesAtMost (m + n) (x >>= f) := by
  rw [bind_eq]
  cases x.outcome with
  | error fault => exact first.mono (Nat.le_add_right m n)
  | ok a =>
    have rest := next a
    simp only [SearchesAtMost, searches, List.filterMap_append, List.length_append] at first rest ⊢
    omega

end Run

open Run

/-! ## Compilation makes no search -/

namespace Criterion

theorem transformBounds_searches (host : Host) (c : Criterion) (raws : List (Bound × Value)) :
    SearchesAtMost 0 (c.transformBounds host raws) := by
  have applied (raw : Value) : SearchesAtMost 0 (c.applyTransform host raw) := by
    unfold applyTransform
    split
    · exact (SearchesAtMost.note rfl).bind fun _ => .ofExcept _
    · exact .fail _
  induction raws with
  | nil => exact .pure []
  | cons first rest inductionHypothesis =>
    exact (applied first.2).bind fun _ => inductionHypothesis.bind fun _ => .pure _

theorem rangeClause_searches (host : Host) (c : Criterion) :
    SearchesAtMost 0 (c.rangeClause host) :=
  (c.transformBounds_searches host c.rawBounds).bind fun _ =>
    (SearchesAtMost.ofExcept _).bind fun _ => .pure _

/-- A criterion is compiled without a search if the override criterion for its marked values is. -/
theorem clause_searches_of_override {host : Host} {cs : Catalogs} {c : Criterion}
    (override : c.marked ≠ [] → ∀ o, c.override cs (.list c.marked) = .ok o →
      SearchesAtMost 0 (o.clause host cs)) : SearchesAtMost 0 (c.clause host cs) := by
  have finish (result : Clause) :
      SearchesAtMost 0 (Run.note (.compiled c.name) >>= fun _ => pure result) :=
    (SearchesAtMost.note rfl).bind fun _ => .pure result
  rw [clause_eq]
  dsimp only
  split
  · exact (c.rangeClause_searches host).bind finish
  · refine (SearchesAtMost.ofExcept _).bind (n := 0) fun main => ?_
    split
    next => exact (SearchesAtMost.pure main).bind finish
    next marked =>
      cases made : c.override cs (.list c.marked) with
      | error fault => exact .fail fault
      | ok o =>
        exact (override marked o made).bind fun inner => (SearchesAtMost.pure _).bind finish

theorem clause_searches (host : Host) (cs : Catalogs) (c : Criterion) :
    SearchesAtMost 0 (c.clause host cs) := by
  refine clause_searches_of_override fun _ o made => clause_searches_of_override fun marked => ?_
  -- the override criterion has no marked values for an override of its own
  exact absurd (marked_override made) marked

end Criterion

/-! ## The text labeller searches once -/

namespace Labels

theorem search_searches (host : Host) (l : Labeller) (clause : Clause) :
    SearchesAtMost 1 (search host l clause) := by
  unfold search
  split
  next name _ =>
    have noted : SearchesAtMost 1 (Run.note (.searched name clause)) := Nat.le_refl 1
    exact noted.bind fun _ => .ofExcept _
  next => exact (SearchesAtMost.fail _).mono (Nat.zero_le _)

theorem documents_searches (host : Host) (cs : Catalogs) (l : Labeller) (keys : List Value) :
    SearchesAtMost 1 (documents host cs l keys) := by
  unfold documents
  split
  · exact (SearchesAtMost.fail _).mono (Nat.zero_le _)
  · refine (SearchesAtMost.ofExcept _).bind (n := 1) fun c => ?_
    refine (c.clause_searches host cs).bind (n := 1) fun clause => ?_
    refine (search_searches host l clause).bind (n := 0) fun found => ?_
    split
    · exact .fail _
    · exact .pure _

theorem labelEntry_searches (l : Labeller) (found : List Entries) (es : Entries) :
    SearchesAtMost 0 (labelEntry l found es) := by
  unfold labelEntry
  split
  · dsimp only
    split
    · exact (SearchesAtMost.note rfl).bind fun _ => .pure _
    · exact .pure _
  · exact .pure _

theorem labelEntries_searches (l : Labeller) (found entries : List Entries) :
    SearchesAtMost 0 (labelEntries l found entries) := by
  induction entries with
  | nil => exact .pure []
  | cons es entries inductionHypothesis =>
    exact (labelEntry_searches l found es).bind fun _ => inductionHypothesis.bind fun _ => .pure _

theorem loadTexts_searches (host : Host) (cs : Catalogs) (l : Labeller) (values : List Value) :
    SearchesAtMost 1 (loadTexts host cs l values) := by
  refine (SearchesAtMost.ofExcept _).bind (n := 1) fun entries => ?_
  split
  · exact (SearchesAtMost.pure _).mono (Nat.zero_le _)
  · exact (documents_searches host cs l _).bind fun found => labelEntries_searches l found entries

end Labels

theorem Labeller.load_searches {l : Labeller} (builtIn : ¬ l.IsCustom) (host : Host)
    (cs : Catalogs) (entries : Value) : SearchesAtMost 1 (l.load host cs entries).run := by
  unfold load
  split
  · dsimp only
    split
    · exact Labels.loadTexts_searches host cs l _
    · exact (SearchesAtMost.fail _).mono (Nat.zero_le _)
  · exact (SearchesAtMost.fail _).mono (Nat.zero_le _)
  next name isCustom => exact absurd ⟨name, isCustom⟩ builtIn

namespace Criterion

/-! ## The searches of a labelling -/

/-- The searches that the host makes on its own while the values are labelled: those of making the
labeller, and those of its load if it is of a kind of the host. -/
def hostSearches (host : Host) (cs : Catalogs) (c : Criterion) : List (String × Clause) :=
  (c.labeller host cs).searches ++ match (c.labeller host cs).outcome with
    | .ok l => match l.kind with
      | .custom name => (host.load name l (.list c.values)).run.searches
      | .text | .abstract => []
    | .error _ => []

theorem searches_of_made {host : Host} {cs : Catalogs} {c : Criterion} {l : Labeller}
    {loading : Loading} (made : (c.labeller host cs).outcome = .ok l)
    (handed : l.load host cs (.list c.values) = loading) {α : Type} (outcome : Except Fault α) :
    let run : Run α := ⟨(c.labeller host cs).log ++ loading.run.log, outcome⟩
    SearchesAtMost 1 run ∨ run.searches = c.hostSearches host cs := by
  intro run
  have searches : run.searches = (c.labeller host cs).searches ++ loading.run.searches :=
    List.filterMap_append
  by_cases isCustom : l.IsCustom
  · obtain ⟨name, isKind⟩ := isCustom
    right
    rw [searches, hostSearches, made, ← handed, Labeller.load]
    simp only [isKind]
  · left
    rw [SearchesAtMost, searches, labeller_of_builtIn made isCustom, ← handed]
    exact l.load_searches isCustom host cs _

theorem label_searches (c : Criterion) (host : Host) (cs : Catalogs) :
    SearchesAtMost 1 (c.label host cs).2 ∨
      (c.label host cs).2.searches = c.hostSearches host cs := by
  have ends := c.labelsTo_label host cs
  generalize c.label host cs = result at ends
  cases ends with
  | kept => exact .inl (Nat.zero_le 1)
  | unmade _ refused =>
    right
    rw [hostSearches, refused, List.append_nil]
    rfl
  | failed _ made handed | miscounted _ made handed | replaced _ made handed =>
    exact searches_of_made made handed _

end Criterion

/-! ## What labellers leave -/

namespace Labeller

/-- A labeller that leaves the entries that it is handed as they are. -/
def LeavesEntries (host : Host) (cs : Catalogs) (l : Labeller) : Prop :=
  ∀ entries, (l.load host cs entries).left = entries

/-- A labeller that leaves as many entries in a list as there were. -/
def LeavesCount (host : Host) (cs : Catalogs) (l : Labeller) : Prop :=
  ∀ values, (l.load host cs (.list values)).left.items.length = values.length

variable {host : Host} {cs : Catalogs} {l : Labeller}

theorem LeavesEntries.leavesCount (leaves : l.LeavesEntries host cs) : l.LeavesCount host cs := by
  intro values
  rw [leaves, Value.items_list]

theorem leavesEntries_of_custom (leaves : l.IsCustom → l.LeavesEntries host cs) :
    l.LeavesEntries host cs := by
  by_cases isCustom : l.IsCustom
  · exact leaves isCustom
  · exact left_of_builtIn isCustom host cs

theorem leavesCount_of_custom (leaves : l.IsCustom → l.LeavesCount host cs) :
    l.LeavesCount host cs := by
  by_cases isCustom : l.IsCustom
  · exact leaves isCustom
  · exact LeavesEntries.leavesCount (left_of_builtIn isCustom host cs)

theorem leavesEntries_of_stock (engines : List (String × Stock.Engine)) (cs : Catalogs)
    (l : Labeller) : l.LeavesEntries (Stock.host engines) cs :=
  leavesEntries_of_custom fun ⟨name, isKind⟩ entries => by rw [load, isKind]; rfl

end Labeller

namespace Criterion

theorem leftValues_of_leavesEntries {host : Host} {cs : Catalogs} {c : Criterion}
    (leave : ∀ l, (c.labeller host cs).outcome = .ok l → l.IsCustom → l.LeavesEntries host cs) :
    c.leftValues host cs = c.values := by
  unfold leftValues
  split
  · split
    next l made => rw [Labeller.leavesEntries_of_custom (leave l made), Value.items_list]
    next => rfl
  · rfl

theorem length_leftValues {host : Host} {cs : Catalogs} {c : Criterion}
    (leave : ∀ l, (c.labeller host cs).outcome = .ok l → l.IsCustom → l.LeavesCount host cs) :
    (c.leftValues host cs).length = c.values.length := by
  unfold leftValues
  split
  · split
    next l made => exact Labeller.leavesCount_of_custom (leave l made) c.values
    next => rfl
  · rfl

/-! ## Labelling -/

theorem label_fails {host : Host} {cs : Catalogs} {c : Criterion} {fault : Fault}
    (fails : (c.label host cs).2.outcome = .error fault) :
    (c.label host cs).1 = { c with values := c.leftValues host cs } := by
  have ends := c.labelsTo_label host cs
  generalize c.label host cs = result at ends fails
  cases ends with
  | kept | replaced => cases fails
  | unmade needed refused => rw [leftValues, if_pos needed, refused]
  | failed needed made handed | miscounted needed made handed =>
    rw [leftValues_of_made needed made handed]

theorem label_replaces {host : Host} {cs : Catalogs} {c : Criterion}
    (replaces : (c.label host cs).2.outcome = .ok true) :
    ∃ l loaded, (c.labeller host cs).outcome = .ok l ∧
      (l.load host cs (.list c.values)).run.outcome = .ok loaded ∧
      loaded.length = (c.leftValues host cs).length ∧
      (c.label host cs).1 = { c with values := loaded } := by
  have ends := c.labelsTo_label host cs
  generalize c.label host cs = result at ends replaces
  cases ends with
  | kept | unmade | failed | miscounted => cases replaces
  | replaced needed made handed loads counted =>
    rw [← leftValues_of_made needed made handed] at counted
    exact ⟨_, _, made, handed ▸ loads, counted, rfl⟩

theorem label_keeps {host : Host} {cs : Catalogs} {c : Criterion}
    (keeps : (c.label host cs).2.outcome = .ok false) : c.needsLabels = false := by
  have ends := c.labelsTo_label host cs
  generalize c.label host cs = result at ends keeps
  cases ends with
  | kept labelled => exact labelled
  | unmade | failed | miscounted | replaced => cases keeps

/-- A labelling leaves as many values as its labeller does. -/
theorem length_values_label (c : Criterion) (host : Host) (cs : Catalogs) :
    (c.label host cs).1.values.length = (c.leftValues host cs).length := by
  have ends := c.labelsTo_label host cs
  generalize c.label host cs = result at ends
  cases ends with
  | kept labelled =>
    rw [leftValues, labelled]
    rfl
  | unmade needed refused => rw [leftValues, if_pos needed, refused]
  | failed needed made handed | miscounted needed made handed =>
    rw [leftValues_of_made needed made handed]
  | replaced needed made handed _ counted => rw [leftValues_of_made needed made handed, counted]

theorem length_values_labelAll {c : Criterion} {calls : List (Host × Catalogs)}
    (leave : ∀ call ∈ calls, ∀ l, (c.labeller call.1 call.2).outcome = .ok l → l.IsCustom →
      l.LeavesCount call.1 call.2) :
    (c.changeAll (calls.map fun call => .label call.1 call.2)).values.length = c.values.length := by
  induction calls generalizing c with
  | nil => rfl
  | cons call calls inductionHypothesis =>
    obtain ⟨first, others⟩ := List.forall_mem_cons.1 leave
    -- the labellers of the other calls are those that the criterion had before the first one
    refine (inductionHypothesis (c := c.change (.label call.1 call.2)) ?_).trans ?_
    · intro call' member l made
      rw [labeller_change] at made
      exact others call' member l made
    · exact (c.length_values_label call.1 call.2).trans (length_leftValues first)

/-- A labeller that takes an entry out of the list that it was handed, before it fails. -/
example :
    let host := { Stock.host [] with
      load := fun _ _ entries => ⟨.list (entries.items.drop 1), .fail (.raised "backend down")⟩ }
    let cs := Catalogs.initial.modify Catalogs.standardName (·.insert "text" (.custom "taking"))
    ((Construction.ofConfig (.map [("name", "company"),
        ("values", .list [.map [("key", "1")], .map [("key", "2")]])])).build .initial).map
          (fun c => ((c.label host cs).2.outcome, (c.label host cs).1.values))
      = .ok (.error (.raised "backend down"), [.map [("key", "2")]]) := by
  decide +kernel

end Criterion

end Criteria
