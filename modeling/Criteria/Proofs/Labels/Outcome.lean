import Criteria.Criterion.Labelling
import Criteria.Fault.Outcome

/-! # What a labelling comes to

A labelling ends in one of five ways, and only where a labeller has had the values in its hands can
they be others afterwards.

* `Criterion.LabelsTo` — the ways in which a labelling ends;
* `Criterion.labelsTo_label` — every labelling ends in one of them;
* `Criterion.labeller_eq_ok` — where a criterion has its labeller from.

A labeller of a built-in kind is made without a trace, and it leaves the entries that it is handed
as they are.  Those of the host may do both otherwise.
-/

namespace Criteria

open Run

namespace Labeller

/-! ## Built-in kinds -/

theorem kind_of_make {host : Host} {kind : LabellerKind} {arguments : Entries} {l : Labeller}
    (made : (make host kind arguments).outcome = .ok l) : l.kind = kind := by
  cases kind with
  | text | abstract =>
    rw [make, ofExcept_outcome, ofArguments] at made
    split at made
    · cases made
    · cases made
      rfl
  | custom name =>
    rw [make, outcome_bind] at made
    obtain ⟨_, _, made⟩ := Outcome.bind_eq_ok.1 made
    cases made
    rfl

/-- Whether a labeller is of a kind that the host brings. -/
def IsCustom (l : Labeller) : Prop :=
  ∃ name, l.kind = .custom name

theorem left_of_builtIn {l : Labeller} (builtIn : ¬ l.IsCustom) (host : Host) (cs : Catalogs)
    (entries : Value) : (l.load host cs entries).left = entries := by
  unfold load
  split
  · rfl
  · rfl
  next name isCustom => exact absurd ⟨name, isCustom⟩ builtIn

theorem load_text {l : Labeller} (text : l.kind = .text) (host : Host) (cs : Catalogs)
    (values : List Value) :
    l.load host cs (.list values) = ⟨.list values, Labels.loadTexts host cs l values⟩ := by
  rw [load, text]
  rfl

theorem not_isCustom_of_text {l : Labeller} (text : l.kind = .text) : ¬ l.IsCustom := by
  rintro ⟨name, isCustom⟩
  cases text.symm.trans isCustom

end Labeller

namespace Criterion

variable {host : Host} {cs : Catalogs} {c : Criterion} {l : Labeller}

theorem labeller_eq_ok (made : (c.labeller host cs).outcome = .ok l) :
    ∃ o, c.labelOptions = .ok o ∧
      c.labeller host cs = Labeller.make host l.kind (c.labellerArguments o) := by
  unfold labeller at made ⊢
  cases named : c.catalogName? with
  | none =>
    rw [named] at made
    cases made
  | some name =>
    cases options : c.labelOptions with
    | error fault =>
      rw [named, options] at made
      cases made
    | ok o =>
      cases found : (c.catalog cs).resolve o.labeller with
      | error fault =>
        simp only [named, options, ofExcept_ok_bind, Labeller.create, found] at made
        cases made
      | ok kind =>
        simp only [named, options, ofExcept_ok_bind, Labeller.create, found] at made ⊢
        exact ⟨o, rfl, by rw [Labeller.kind_of_make made]⟩

theorem labeller_of_builtIn (made : (c.labeller host cs).outcome = .ok l)
    (builtIn : ¬ l.IsCustom) : c.labeller host cs = ⟨[], .ok l⟩ := by
  obtain ⟨o, _, isMade⟩ := labeller_eq_ok made
  rw [isMade] at made ⊢
  cases isKind : l.kind with
  | text | abstract =>
    rw [isKind] at made
    exact congrArg (Run.mk []) made
  | custom name => exact absurd ⟨name, isKind⟩ builtIn

/-! ## Ways to end -/

/-- The ways in which a labelling ends: with the criterion afterwards, and the run. -/
inductive LabelsTo (host : Host) (cs : Catalogs) (c : Criterion) : Criterion × Run Bool → Prop where
  /-- No label is needed. -/
  | kept (labelled : c.needsLabels = false) : LabelsTo host cs c (c, ⟨[], .ok false⟩)
  /-- No labeller is found or made. -/
  | unmade {fault : Fault} (needed : c.needsLabels = true)
      (refused : (c.labeller host cs).outcome = .error fault) :
      LabelsTo host cs c (c, ⟨(c.labeller host cs).log, .error fault⟩)
  /-- The labeller fails. -/
  | failed {l : Labeller} {loading : Loading} {fault : Fault} (needed : c.needsLabels = true)
      (made : (c.labeller host cs).outcome = .ok l)
      (handed : l.load host cs (.list c.values) = loading)
      (fails : loading.run.outcome = .error fault) :
      LabelsTo host cs c ({ c with values := loading.left.items },
        ⟨(c.labeller host cs).log ++ loading.run.log, .error fault⟩)
  /-- The labeller gives back another number of entries than it leaves. -/
  | miscounted {l : Labeller} {loading : Loading} {loaded : List Value}
      (needed : c.needsLabels = true) (made : (c.labeller host cs).outcome = .ok l)
      (handed : l.load host cs (.list c.values) = loading)
      (loads : loading.run.outcome = .ok loaded)
      (differ : loaded.length ≠ loading.left.items.length) :
      LabelsTo host cs c ({ c with values := loading.left.items },
        ⟨(c.labeller host cs).log ++ loading.run.log, .error (.labelling
          (.countMismatch (l.title host) loaded.length loading.left.items.length) c.name)⟩)
  /-- The values are replaced. -/
  | replaced {l : Labeller} {loading : Loading} {loaded : List Value}
      (needed : c.needsLabels = true) (made : (c.labeller host cs).outcome = .ok l)
      (handed : l.load host cs (.list c.values) = loading)
      (loads : loading.run.outcome = .ok loaded)
      (counted : loaded.length = loading.left.items.length) :
      LabelsTo host cs c ({ c with values := loaded },
        ⟨(c.labeller host cs).log ++ loading.run.log, .ok true⟩)

/-- A criterion whose entries have their labels is left alone by every host. -/
theorem label_of_labelled (labelled : c.needsLabels = false) (host : Host) (cs : Catalogs) :
    c.label host cs = (c, ⟨[], .ok false⟩) := by
  have nothing : c.newValues host cs = ⟨[], .ok none⟩ := by
    rw [newValues, labelled]
    rfl
  rw [label, nothing]

theorem label_of_error {log : List Event} {fault : Fault}
    (failed : c.newValues host cs = ⟨log, .error fault⟩) :
    c.label host cs = ({ c with values := c.leftValues host cs }, ⟨log, .error fault⟩) := by
  rw [label, failed]

section

variable (needed : c.needsLabels = true)

include needed

/-- Without a labeller nothing is handed over, so the values stay as they are. -/
theorem label_of_unmade {fault : Fault} (refused : (c.labeller host cs).outcome = .error fault) :
    c.label host cs = (c, ⟨(c.labeller host cs).log, .error fault⟩) := by
  have failed : c.newValues host cs = ⟨(c.labeller host cs).log, .error fault⟩ := by
    rw [newValues, if_pos needed, bind_of_error refused]
  have left : c.leftValues host cs = c.values := by rw [leftValues, if_pos needed, refused]
  rw [label_of_error failed, left]

variable (made : (c.labeller host cs).outcome = .ok l) {loading : Loading}
  (handed : l.load host cs (.list c.values) = loading)

include made handed

theorem leftValues_of_made : c.leftValues host cs = loading.left.items := by
  rw [leftValues, if_pos needed, made, ← handed]

theorem label_of_failed {fault : Fault} (fails : loading.run.outcome = .error fault) :
    c.label host cs = ({ c with values := loading.left.items },
      ⟨(c.labeller host cs).log ++ loading.run.log, .error fault⟩) := by
  have failed : c.newValues host cs
      = ⟨(c.labeller host cs).log ++ loading.run.log, .error fault⟩ := by
    rw [newValues, if_pos needed, bind_of_ok made, handed, bind_of_error fails]
  rw [label_of_error failed, leftValues_of_made needed made handed]

variable {loaded : List Value} (loads : loading.run.outcome = .ok loaded)

include loads

theorem label_of_miscounted (differ : loaded.length ≠ loading.left.items.length) :
    c.label host cs = ({ c with values := loading.left.items },
      ⟨(c.labeller host cs).log ++ loading.run.log, .error (.labelling
        (.countMismatch (l.title host) loaded.length loading.left.items.length) c.name)⟩) := by
  have failed : c.newValues host cs
      = ⟨(c.labeller host cs).log ++ (loading.run.log ++ []), .error (.labelling
          (.countMismatch (l.title host) loaded.length loading.left.items.length) c.name)⟩ := by
    rw [newValues, if_pos needed, bind_of_ok made, handed, bind_of_ok loads, if_neg differ]
    rfl
  rw [label_of_error failed, leftValues_of_made needed made handed, List.append_nil]

theorem label_of_loaded (counted : loaded.length = loading.left.items.length) :
    c.label host cs = ({ c with values := loaded },
      ⟨(c.labeller host cs).log ++ loading.run.log, .ok true⟩) := by
  have replaced : c.newValues host cs
      = ⟨(c.labeller host cs).log ++ (loading.run.log ++ []), .ok (some loaded)⟩ := by
    rw [newValues, if_pos needed, bind_of_ok made, handed, bind_of_ok loads, if_pos counted]
    rfl
  rw [label, replaced, List.append_nil]

omit loads in
/-- Whether it gives values or not, the labelling does what its labeller does. -/
theorem log_label_of_made :
    (c.label host cs).2.log = (c.labeller host cs).log ++ loading.run.log := by
  cases loads : loading.run.outcome with
  | error fault => rw [label_of_failed needed made handed loads]
  | ok loaded =>
    by_cases counted : loaded.length = loading.left.items.length
    · rw [label_of_loaded needed made handed loads counted]
    · rw [label_of_miscounted needed made handed loads counted]

end

theorem labelsTo_label (host : Host) (cs : Catalogs) (c : Criterion) :
    c.LabelsTo host cs (c.label host cs) := by
  cases needed : c.needsLabels with
  | false =>
    rw [label_of_labelled needed]
    exact .kept needed
  | true =>
    cases made : (c.labeller host cs).outcome with
    | error fault =>
      rw [label_of_unmade needed made]
      exact .unmade needed made
    | ok l =>
      cases handed : l.load host cs (.list c.values) with
      | mk left run =>
        obtain ⟨log, outcome⟩ := run
        cases outcome with
        | error fault =>
          rw [label_of_failed needed made handed rfl]
          exact .failed needed made handed rfl
        | ok loaded =>
          by_cases counted : loaded.length = left.items.length
          · rw [label_of_loaded needed made handed rfl counted]
            exact .replaced needed made handed rfl counted
          · rw [label_of_miscounted needed made handed rfl counted]
            exact .miscounted needed made handed rfl counted

end Criterion

end Criteria
