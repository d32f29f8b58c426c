import Criteria.Proofs.Criterion.Precedence
import Criteria.Proofs.Labels.Labellers

/-! # What a labeller's name stands for

All that constructions and labellings take from the catalogs is what one name stands for in one of
them.

* `Criterion.ofEntries_of_named` — the construction from a configuration that names a labeller;
* `Criterion.Typed.labeller_of_bound` — the labeller of a criterion whose labeller's name is known;
* `Criterion.Typed.label_of_bound` — labelling by it, under all catalogs that know it.

The text labeller compiles a query of its own.  That query names no labeller, and neither does the
override criterion that it may have, so no catalog is asked again.
-/

namespace Criteria

open Entries

/-! ## Labellers do not look into catalogs -/

namespace Labels

theorem clause_of_query {cs : Catalogs} {keyField : Value} {keys : List Value} {c : Criterion}
    (made : query cs keyField keys = .ok c) (host : Host) (cs' : Catalogs) :
    c.clause host cs' = c.clause host cs := by
  rw [query_eq_read] at made
  by_cases allOwn : c.marked = []
  · exact Criterion.clause_of_no_override (.inr allOwn) host cs cs'
  · have noOverride : c.setting .override = .null :=
      Config.setting_of_absent made rfl (by decide) rfl
    have reads (cs : Catalogs) : c.override cs (.list c.marked)
        = Config.read (c.overrideConfig [] (.list c.marked)) := by
      rw [Criterion.override_of_null noOverride, Criterion.ofEntries_overrideConfig_nil]
    obtain ⟨o, accepted⟩ :=
      Criterion.ofEntries_inherited (Criterion.typed_of_read made) cs (.list c.marked)
    rw [Criterion.ofEntries_overrideConfig_nil] at accepted
    exact Criterion.clause_of_same_override ((reads cs).trans accepted)
      ((reads cs').trans accepted)

theorem documents_under_catalogs (host : Host) (cs cs' : Catalogs) (l : Labeller)
    (keys : List Value) : documents host cs' l keys = documents host cs l keys := by
  unfold documents
  split
  · rfl
  · cases made : query cs l.keyField keys with
    | error fault =>
      rw [query_eq_read] at made ⊢
      rw [made]
      rfl
    | ok c =>
      have made' : query cs' l.keyField keys = .ok c := by
        rw [query_eq_read] at made ⊢
        exact made
      simp only [made', Run.ofExcept_ok_bind, clause_of_query made host cs']

end Labels

theorem Labeller.load_under_catalogs (host : Host) (cs cs' : Catalogs) (l : Labeller)
    (entries : Value) : l.load host cs' entries = l.load host cs entries := by
  simp only [load, Labels.loadTexts, Labels.documents_under_catalogs host cs cs']

namespace Criterion

theorem label_of_same_labeller {host : Host} {cs cs' : Catalogs} {c : Criterion}
    (same : c.labeller host cs' = c.labeller host cs) : c.label host cs' = c.label host cs := by
  simp only [label, newValues, leftValues, same, Labeller.load_under_catalogs host cs cs']

/-! ## Constructions -/

/-- A configuration that names a labeller, and has no override, describes one criterion under all
catalogs that know the name, and none under the others. -/
theorem ofEntries_of_named {es : Entries} {c : Criterion} {name : String}
    (reads : Config.read es = .ok c) (named : Config.labeller? es = some name)
    (alone : get es "user_query" = .null) (cs : Catalogs) :
    ofEntries cs es =
      let catalog := cs.get (Config.catalogName es)
      if catalog.has name then .ok c else .error (.unknownLabeller (.str name) catalog.names) := by
  have isNamed := (Config.labeller?_of_read reads).trans named
  obtain ⟨options, isThere, rfl⟩ := Option.map_eq_some_iff.1 isNamed
  have noOverride : c.setting .override = .null :=
    (Config.setting_override_of_read reads).trans alone
  rw [ofEntries_of_read reads, checkLabeller_of_named isThere, Config.catalog_of_read reads,
    noOverride]
  dsimp only
  split <;> rfl

/-! ## Labellings -/

namespace Typed

variable {c : Criterion} (typed : c.Typed)

include typed

theorem labeller_of_bound {cs : Catalogs} {kind : LabellerKind}
    (bound : (c.catalog cs).get? (c.labelOptions?.getD .standard).labeller = some kind)
    (host : Host) : c.labeller host cs
      = Labeller.make host kind (c.labellerArguments (c.labelOptions?.getD .standard)) := by
  rw [typed.labeller]
  dsimp only
  rw [Labeller.create, Catalog.resolve, bound]
  rfl

theorem label_of_bound {cs cs' : Catalogs} {kind : LabellerKind}
    (bound : (c.catalog cs).get? (c.labelOptions?.getD .standard).labeller = some kind)
    (bound' : (c.catalog cs').get? (c.labelOptions?.getD .standard).labeller = some kind)
    (host : Host) : c.label host cs' = c.label host cs :=
  label_of_same_labeller
    ((typed.labeller_of_bound bound' host).trans (typed.labeller_of_bound bound host).symm)

theorem label_of_unbound {cs : Catalogs} (needed : c.needsLabels = true)
    (unbound : (c.catalog cs).get? (c.labelOptions?.getD .standard).labeller = none)
    (host : Host) :
    c.label host cs = (c, ⟨[], .error (.unknownLabeller
      (.str (c.labelOptions?.getD .standard).labeller) (c.catalog cs).names)⟩) := by
  have unknown : (c.catalog cs).has (c.labelOptions?.getD .standard).labeller = false := by
    rw [Catalog.has_eq_isSome, unbound]
    rfl
  have missing := typed.labeller_of_unknown unknown host
  rw [label_of_unmade needed (congrArg Run.outcome missing), missing]
  rfl

end Typed

end Criterion

end Criteria
