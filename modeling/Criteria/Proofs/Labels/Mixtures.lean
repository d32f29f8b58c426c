import Criteria.Proofs.Labels.Batches

/-! # Labels for mixed values

A criterion needs labels on account of the mappings among its values, whatever the others are.  The
text labeller spreads all of them into mappings.

* `Value.spread_of_isScalar` — of the scalars only the empty text can be spread;
* `Labels.spreads_or_fails` — all values can be spread, or there is a first one that cannot;
* `Criterion.label_mixture` — what a labelling makes of values of all kinds.

A value that is no mapping survives only a labelling that finds nothing to do.
-/

namespace Criteria

open Run

/-! ## Values that can be spread -/

theorem Value.spread_of_isScalar {v : Value} (scalar : v.isScalar = true) (other : v ≠ .str "") :
    ∃ why, v.spread = .error why := by
  cases v with
  | null | bool _ | int _ | float _ => exact ⟨.wrongType, rfl⟩
  | str s =>
    obtain ⟨first, rest, split⟩ : ∃ first rest, s.toList = first :: rest := by
      refine List.exists_cons_of_ne_nil fun empty => other ?_
      rw [String.toList_eq_nil_iff.1 empty]
    -- the first character is a sequence of one, which is no pair
    refine ⟨.badValue, ?_⟩
    simp [spread, elements?, split, spreadPairs, pair]
  | list _ | tuple _ | map _ | transform _ | catalog _ | engine _ | options _ => cases scalar

namespace Labels

theorem spreadAll_of_spread {values : List Value} {entries : List Entries}
    (spreads : List.Forall₂ (fun v es => v.spread = .ok es) values entries) :
    spreadAll values = .ok entries := by
  induction spreads with
  | nil => rfl
  | cons first _ inductionHypothesis =>
    rw [spreadAll, first, inductionHypothesis]
    rfl

theorem spreadAll_of_error {before : List Value} {v : Value} {why : Misuse}
    (spread : ∀ u ∈ before, ∃ es, u.spread = .ok es) (fails : v.spread = .error why)
    (after : List Value) : spreadAll (before ++ v :: after) = .error (.misuse why) := by
  induction before with
  | nil => rw [List.nil_append, spreadAll, fails]
  | cons u before inductionHypothesis =>
    obtain ⟨⟨es, first⟩, spread⟩ := List.forall_mem_cons.1 spread
    rw [List.cons_append, spreadAll, first, inductionHypothesis spread]
    rfl

theorem spreads_or_fails (values : List Value) :
    (∃ entries, List.Forall₂ (fun v es => v.spread = .ok es) values entries) ∨
    ∃ before v after why, values = before ++ v :: after ∧
      (∀ u ∈ before, ∃ es, u.spread = .ok es) ∧ v.spread = .error why := by
  rcases Outcome.all_ok_or_error Value.spread values with spread | fails
  · refine .inl ?_
    induction values with
    | nil => exact ⟨[], .nil⟩
    | cons v values inductionHypothesis =>
      obtain ⟨⟨es, first⟩, rest⟩ := List.forall_mem_cons.1 spread
      obtain ⟨entries, spread⟩ := inductionHypothesis rest
      exact ⟨es :: entries, .cons first spread⟩
  · exact .inr fails

/-! ## Loading -/

theorem outcome_loadTexts_of_spread {l : Labeller} {engine k b : String}
    (consults : l.Consults engine k b) {host : Host}
    (finds : ∀ clause, ∃ found, host.search engine clause = .ok found) (cs : Catalogs)
    {values : List Value} {entries : List Entries}
    (spreads : List.Forall₂ (fun v es => v.spread = .ok es) values entries) :
    ∃ found, (documents host cs l (missingKeys entries)).outcome = .ok found ∧
      (loadTexts host cs l values).outcome
        = .ok ((entries.map (withLabel l found)).map .map) := by
  obtain ⟨clause, searches⟩ := outcome_documents consults host cs (missingKeys entries)
  obtain ⟨found, finds⟩ := finds clause
  have done := searches.trans finds
  have loads : loadTexts host cs l values = loadTexts host cs l (entries.map .map) := by
    rw [loadTexts, loadTexts, spreadAll_of_spread spreads, spreadAll_map]
  refine ⟨found, done, ?_⟩
  rw [loads, loadTexts_eq fun _ => congrArg (Run.mk _) done, outcome_labelEntries]

/-- Values that are kept where they are no mappings, in a list of mappings, are mappings. -/
theorem maps_of_kept {values : List Value} {entries : List Entries}
    (kept : List.Forall₂ (fun v v' => v.isMap = false → v' = v) values (entries.map .map)) :
    ∀ v ∈ values, v.isMap = true := by
  rw [List.forall₂_map_right_iff] at kept
  induction kept with
  | nil => exact nofun
  | @cons v es values entries first rest inductionHypothesis =>
    refine List.forall_mem_cons.2 ⟨?_, inductionHypothesis⟩
    cases isMap : v.isMap with
    | true => rfl
    | false =>
      rw [← first isMap] at isMap
      cases isMap

end Labels

/-! ## Labelling -/

namespace Criterion

theorem label_mixture_cases {host : Host} {cs : Catalogs} {c : Criterion} {l : Labeller}
    {engine : String} (made : (c.labeller host cs).outcome = .ok l) (text : l.kind = .text)
    (isEngine : c.setting .engine = .engine engine)
    (finds : ∀ clause, ∃ found, host.search engine clause = .ok found) :
    (c.needsLabels = false ∧ (c.label host cs).1 = c ∧ (c.label host cs).2.outcome = .ok false) ∨
    (c.needsLabels = true ∧ ∃ before v after why, c.values = before ++ v :: after ∧
      (∀ u ∈ before, ∃ es, u.spread = .ok es) ∧ v.spread = .error why ∧
      (c.label host cs).1 = c ∧ (c.label host cs).2.outcome = .error (.misuse why)) ∨
    (c.needsLabels = true ∧ ∃ entries found,
      List.Forall₂ (fun v es => v.spread = .ok es) c.values entries ∧
      (Labels.documents host cs l (Labels.missingKeys entries)).outcome = .ok found ∧
      (c.label host cs).1.values = (entries.map (Labels.withLabel l found)).map .map ∧
      (c.label host cs).2.outcome = .ok true) := by
  have handed := Labeller.load_text text host cs c.values
  cases needed : c.needsLabels with
  | false =>
    rw [label_of_labelled needed]
    exact .inl ⟨rfl, rfl, rfl⟩
  | true =>
    rcases Labels.spreads_or_fails c.values with
      ⟨entries, spread⟩ | ⟨before, v, after, why, values, spread, fails⟩
    · obtain ⟨k, b, consults, _⟩ := consults_of_labeller made text isEngine
      obtain ⟨found, documents, loads⟩ :=
        Labels.outcome_loadTexts_of_spread consults finds cs spread
      have counted : ((entries.map (Labels.withLabel l found)).map Value.map).length
          = (Value.list c.values).items.length := by
        rw [Value.items_list, List.length_map, List.length_map, spread.length_eq]
      have labelled := label_of_loaded needed made handed loads counted
      exact .inr (.inr ⟨rfl, entries, found, spread, documents, congrArg (·.1.values) labelled,
        congrArg (·.2.outcome) labelled⟩)
    · have stops : (Labels.loadTexts host cs l c.values).outcome = .error (.misuse why) := by
        rw [Labels.loadTexts, values, Labels.spreadAll_of_error spread fails after]
        rfl
      have failed := label_of_failed needed made handed stops
      exact .inr (.inl ⟨rfl, before, v, after, why, values, spread, fails,
        congrArg Prod.fst failed, congrArg (·.2.outcome) failed⟩)

/-- A labelling by the text labeller over a search that does not fail finds nothing to do, or it
stops at the first value that cannot be spread, such as a scalar, and changes nothing, or it puts
mappings in the places of all values.  So the values that are no mappings are kept by a labelling
that succeeds exactly when no mapping lacks its label or there are no such values. -/
theorem label_mixture {host : Host} {cs : Catalogs} {c : Criterion} {l : Labeller} {engine : String}
    (made : (c.labeller host cs).outcome = .ok l) (text : l.kind = .text)
    (isEngine : c.setting .engine = .engine engine)
    (finds : ∀ clause, ∃ found, host.search engine clause = .ok found) :
    let c' := (c.label host cs).1
    let outcome := (c.label host cs).2.outcome
    ((c.needsLabels = false ∧ c' = c ∧ outcome = .ok false) ∨
      (c.needsLabels = true ∧ ∃ before v after why, c.values = before ++ v :: after ∧
        (∀ u ∈ before, ∃ es, u.spread = .ok es) ∧ v.spread = .error why ∧
        c' = c ∧ outcome = .error (.misuse why)) ∨
      (c.needsLabels = true ∧ ∃ entries found,
        List.Forall₂ (fun v es => v.spread = .ok es) c.values entries ∧
        (Labels.documents host cs l (Labels.missingKeys entries)).outcome = .ok found ∧
        c'.values = (entries.map (Labels.withLabel l found)).map .map ∧ outcome = .ok true)) ∧
    (c.needsLabels = true → (∃ v ∈ c.values, v.isScalar = true ∧ v ≠ .str "") →
      ∃ why, outcome = .error (.misuse why)) ∧
    (((∃ replaced, outcome = .ok replaced) ∧
        List.Forall₂ (fun v v' => v.isMap = false → v' = v) c.values c'.values) ↔
      c.needsLabels = false ∨ ∀ v ∈ c.values, v.isMap = true) := by
  intro c' outcome
  have happens := label_mixture_cases made text isEngine finds
  refine ⟨happens, ?_⟩
  rcases happens with ⟨labelled, same, done⟩ |
    ⟨needed, before, v, after, why, values, spread, fails, same, failed⟩ |
    ⟨needed, entries, found, spread, documents, values, done⟩
  · refine ⟨fun needed => ?_, fun _ => .inl labelled, fun _ => ⟨⟨false, done⟩, ?_⟩⟩
    · rw [labelled] at needed
      cases needed
    · rw [show c' = c from same]
      exact List.forall₂_same.2 fun _ _ _ => rfl
  · refine ⟨fun _ _ => ⟨why, failed⟩, fun kept => ?_, fun settled => ?_⟩
    · obtain ⟨⟨replaced, done⟩, _⟩ := kept
      cases failed.symm.trans done
    · have maps : ∀ u ∈ c.values, u.isMap = true := settled.resolve_left (by simp [needed])
      -- a mapping can be spread
      obtain ⟨es, rfl⟩ := Value.isMap_eq_true.1 (maps v (by rw [values]; simp))
      cases fails
  · refine ⟨fun _ scalar => ?_, fun kept => .inr ?_, fun settled => ⟨⟨true, done⟩, ?_⟩⟩
    · obtain ⟨v, member, isScalar, other⟩ := scalar
      obtain ⟨why, fails⟩ := Value.spread_of_isScalar isScalar other
      have spreads : ∀ v ∈ c.values, ∃ es, v.spread = .ok es :=
        ((List.forall₂_and_left _ _).1 (spread.imp fun _ es first => ⟨⟨es, first⟩, first⟩)).1
      obtain ⟨es, spreads⟩ := spreads v member
      cases fails.symm.trans spreads
    · exact Labels.maps_of_kept (values ▸ kept.2)
    · have maps : ∀ v ∈ c.values, v.isMap = true := settled.resolve_left (by simp [needed])
      have counted : c.values.length = c'.values.length := by
        rw [show c'.values = _ from values, List.length_map, List.length_map, spread.length_eq]
      refine List.forall₂_iff_zip.2 ⟨counted, fun both other => ?_⟩
      rw [maps _ (List.of_mem_zip both).1] at other
      cases other

theorem label_mixture_of_pairs :
    let host := Stock.host [("library", ⟨[[("id", "1"), ("text", "One")]], .matching⟩)]
    let values : List Value := [.map [("key", "1")], .list [.list ["key", "2"]]]
    ∃ c, (Construction.ofConfig (.map [("name", "author"), ("search_context", .engine "library"),
        ("values", .list values)])).build .initial = .ok c ∧
      (c.label host .initial).2.outcome = .ok true ∧
      ¬ List.Forall₂ (fun v v' => v.isMap = false → v' = v) c.values
        (c.label host .initial).1.values := by
  intro host values
  let config : Value := .map [("name", "author"), ("search_context", .engine "library"),
    ("values", .list values)]
  let build := (Construction.ofConfig config).build .initial
  have made : build.map (fun c => (c.setting .engine, c.values, c.needsLabels,
      (c.label host .initial).2.outcome))
        = .ok (.engine "library", values, true, .ok true) := by
    decide +kernel
  have kinds : (build.bind fun c => (c.labeller host .initial).outcome.map Labeller.kind)
      = .ok .text := by
    decide +kernel
  obtain ⟨c, l, builds, facts, isLabeller, isText⟩ := exists_labeller made kinds
  simp only [Prod.mk.injEq] at facts
  obtain ⟨isEngine, isValues, needed, done⟩ := facts
  refine ⟨c, builds, done, fun kept => ?_⟩
  have finds (clause : Clause) : ∃ found, host.search "library" clause = .ok found := ⟨_, rfl⟩
  rcases (label_mixture isLabeller isText isEngine finds).2.2.1 ⟨⟨true, done⟩, kept⟩ with
    labelled | maps
  · rw [needed] at labelled
    cases labelled
  · rw [isValues] at maps
    cases maps (.list [.list ["key", "2"]]) (by simp [values])

/-- A text or a number makes the labelling fail, an empty text becomes a mapping with nothing but a
label, and a list of pairs becomes the mapping that the pairs are read as. -/
theorem mixture_lost :
    let host := Stock.host [("library", ⟨[[("id", "1"), ("text", "One")]], .matching⟩)]
    let labelled (other : Value) : Except Fault (Except Fault Bool × List Value) :=
      ((Construction.ofConfig (.map [("name", "author"), ("search_context", .engine "library"),
        ("values", .list [.map [("key", "1")], other])])).build .initial).map fun c =>
          ((c.label host .initial).2.outcome, (c.label host .initial).1.values)
    labelled "Lisa" = .ok (.error (.misuse .badValue), [.map [("key", "1")], "Lisa"]) ∧
      labelled (.int 5) = .ok (.error (.misuse .wrongType), [.map [("key", "1")], .int 5]) ∧
      labelled "" = .ok (.ok true,
        [.map [("key", "1"), ("text", "One")], .map [("text", .null)]]) ∧
      labelled (.list [.list ["key", "2"]]) = .ok (.ok true,
        [.map [("key", "1"), ("text", "One")], .map [("key", "2"), ("text", .null)]]) := by
  decide +kernel

end Criterion

end Criteria
