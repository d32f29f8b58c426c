import Criteria.Proofs.Labels.Queries

/-! # Labels from documents

What the text labeller makes of the documents that a search finds.

* `Labels.Has`, `Labels.Gives` — documents with a key, and the label that they give it;
* `Labels.Labelled` — an entry and what becomes of it;
* `Labels.labelEntries_eq` — all entries at once, with the warnings;
* `Labels.loadTexts_labelled` — what loading does, whatever documents are found.

An entry depends on the documents that have its key, and of those on the last one alone.
-/

namespace Criteria

open Entries Run

/-- Whether an event warns of a key without a label. -/
def Event.isWarning : Event → Bool
  | .unlabelled _ _ _ _ => true
  | .transformed _ _ | .compiled _ | .searched _ _ => false

/-- The warnings of a run, in order. -/
def Run.warnings {α : Type} (run : Run α) : List Event :=
  run.log.filter Event.isWarning

namespace Labels

/-! ## The label of a key -/

/-- A document that has a key in a field: what it has there is not null and has the key's text. -/
def Has (k : String) (key : Value) (document : Entries) : Prop :=
  get document k ≠ .null ∧ (get document k).text = key.text

instance (k : String) (key : Value) (document : Entries) : Decidable (Has k key document) :=
  inferInstanceAs (Decidable (_ ∧ _))

/-- The label that some documents give a key: that of the last one that has the key. -/
inductive Gives (k b : String) (found : List Entries) (key : Value) : Value → Prop where
  | last {before after : List Entries} {document : Entries}
      (split : found = before ++ document :: after) (has : Has k key document)
      (rest : ∀ other ∈ after, ¬ Has k key other) : Gives k b found key (get document b)
  | nothing (lacks : ∀ document ∈ found, ¬ Has k key document) : Gives k b found key .null

theorem belongsTo_eq_true {k : String} {key : Value} {document : Entries} :
    belongsTo (.str k) key document = true ↔ Has k key document := by
  rw [belongsTo, hasKey, Bool.and_eq_true, Bool.not_eq_true', beq_iff_eq, Has,
    ← Bool.not_eq_true, Value.isNull_eq_true]

theorem belongsTo_eq_decide (k : String) (key : Value) (document : Entries) :
    belongsTo (.str k) key document = decide (Has k key document) := by
  rw [Bool.eq_iff_iff, belongsTo_eq_true, decide_eq_true_iff]

section

variable {l : Labeller} {engine k b : String} (consults : l.Consults engine k b)

include consults

theorem find_eq (found : List Entries) (key : Value) :
    find l found key = match found.reverse.find? fun d => decide (Has k key d) with
      | some document => get document b
      | none => .null := by
  have belongs : belongsTo l.keyField key = fun d => decide (Has k key d) := by
    rw [consults.keyField]
    exact funext (belongsTo_eq_decide k key)
  change (match found.reverse.find? (belongsTo l.keyField key) with
    | some document => get document l.labelField
    | none => .null) = _
  rw [belongs, consults.labelField]

theorem find_of_last {before after : List Entries} {document : Entries} {key : Value}
    (has : Has k key document) (rest : ∀ other ∈ after, ¬ Has k key other) :
    find l (before ++ document :: after) key = get document b := by
  have last : (before ++ document :: after).reverse.find? (fun d => decide (Has k key d))
      = some document := by
    -- what follows the document is what a search from the end meets first
    refine List.find?_eq_some_iff_append.2 ⟨by simpa using has, after.reverse, before.reverse, ?_⟩
    simpa using rest
  rw [find_eq consults, last]

theorem find_of_lacking {found : List Entries} {key : Value}
    (lacks : ∀ document ∈ found, ¬ Has k key document) : find l found key = .null := by
  have none : found.reverse.find? (fun d => decide (Has k key d)) = none := by
    simpa using lacks
  rw [find_eq consults, none]

/-- What is found for a key is the one label that the documents give it. -/
theorem gives_iff {found : List Entries} {key v : Value} :
    Gives k b found key v ↔ v = find l found key := by
  constructor
  · rintro (⟨rfl, has, rest⟩ | lacks)
    · exact (find_of_last consults has rest).symm
    · exact (find_of_lacking consults lacks).symm
  · rintro rfl
    cases last : found.reverse.find? (fun d => decide (Has k key d)) with
    | none =>
      have lacks : ∀ document ∈ found, ¬ Has k key document := by simpa using last
      rw [find_of_lacking consults lacks]
      exact .nothing lacks
    | some document =>
      obtain ⟨has, after, before, split, rest⟩ := List.find?_eq_some_iff_append.1 last
      have has : Has k key document := by simpa using has
      have rest : ∀ other ∈ after.reverse, ¬ Has k key other := by simpa using rest
      have split : found = before.reverse ++ document :: after.reverse := by
        rw [← List.reverse_reverse found, split]
        simp
      rw [split, find_of_last consults has rest]
      exact .last rfl has rest

/-- Documents that do not have a key may be left out. -/
theorem find_filter {found : List Entries} {key : Value} {p : Entries → Bool}
    (kept : ∀ document ∈ found, Has k key document → p document = true) :
    find l (found.filter p) key = find l found key := by
  have same : (found.filter p).reverse.find? (fun d => decide (Has k key d))
      = found.reverse.find? (fun d => decide (Has k key d)) := by
    rw [← List.filter_reverse, List.find?_filter]
    -- the two tests differ on documents without the key alone, and there both of them fail
    refine List.find?_congr fun document member => ?_
    by_cases has : Has k key document
    · simp [has, kept document (List.mem_reverse.1 member) has]
    · simp [has]
  rw [find_eq consults, same, find_eq consults]

end

theorem Gives.unique {k b : String} {found : List Entries} {key v v' : Value}
    (gives : Gives k b found key v) (gives' : Gives k b found key v') : v = v' := by
  have consults : Labeller.Consults ⟨.text, .str k, .str b, .engine "", .null⟩ "" k b :=
    ⟨rfl, rfl, rfl⟩
  rw [(gives_iff consults).1 gives, (gives_iff consults).1 gives']

/-! ## Entries -/

/-- An entry and what becomes of it: one that has a label stays as it is, and any other differs in
its label alone, which is the one that the documents give its key. -/
structure Labelled (k b : String) (found : List Entries) (es es' : Entries) : Prop where
  kept : (get es labelName).truthy = true → es' = es
  label : (get es labelName).truthy = false →
    ∃ v, get? es' labelName = some v ∧ Gives k b found (get es keyName) v
  others : ∀ key : Value, key.sameKey labelName = false → get? es' key = get? es key

theorem labelled_withLabel {l : Labeller} {engine k b : String} (consults : l.Consults engine k b)
    (found : List Entries) (es : Entries) : Labelled k b found es (withLabel l found es) := by
  unfold withLabel
  cases needed : lacksLabel es with
  | false =>
    rw [lacksLabel, Bool.not_eq_false'] at needed
    exact ⟨fun _ => rfl, fun lacks => absurd needed (by simp [lacks]), fun _ _ => rfl⟩
  | true =>
    rw [lacksLabel, Bool.not_eq_true'] at needed
    refine ⟨fun has => absurd needed (by simp [has]), fun _ => ?_, fun key other => ?_⟩
    · exact ⟨_, get?_insert_str _ _ _, (gives_iff consults).2 rfl⟩
    · rw [if_pos rfl, get?_insert, Value.sameKey_comm, other]
      rfl

theorem labelEntry_eq (l : Labeller) (found : List Entries) (es : Entries) :
    labelEntry l found es =
      ⟨if lacksLabel es && (find l found (get es keyName)).isNull then
          [.unlabelled l.labelField l.keyField (get es keyName) l.criterion] else [],
        .ok (withLabel l found es)⟩ := by
  unfold labelEntry withLabel
  cases lacksLabel es with
  | false => rfl
  | true =>
    dsimp only
    cases (find l found (get es keyName)).isNull <;> rfl

/-- All entries get their labels, and there is a warning for every label that is null. -/
theorem labelEntries_eq (l : Labeller) (found entries : List Entries) :
    labelEntries l found entries =
      ⟨(entries.filter fun es => lacksLabel es && (find l found (get es keyName)).isNull).map
          fun es => .unlabelled l.labelField l.keyField (get es keyName) l.criterion,
        .ok ((entries.map (withLabel l found)).map .map)⟩ := by
  induction entries with
  | nil => rfl
  | cons es entries inductionHypothesis =>
    rw [labelEntries, labelEntry_eq, inductionHypothesis, List.filter_cons]
    cases lacksLabel es && (find l found (get es keyName)).isNull <;> simp [Run.bind_eq]

/-! ## Loading -/

theorem missingKeys_ne_nil {entries : List Entries} (missing : entries.any lacksLabel = true) :
    missingKeys entries ≠ [] := fun none => by
  rw [missingKeys_eq_nil.1 none] at missing
  cases missing

theorem map_withLabel_of_labelled {entries : List Entries}
    (labelled : entries.any lacksLabel = false) (l : Labeller) (found : List Entries) :
    entries.map (withLabel l found) = entries := by
  rw [List.any_eq_false] at labelled
  refine (List.map_congr_left fun es member => ?_).trans entries.map_id
  rw [withLabel, if_neg (labelled es member), id]

theorem labelEntries_of_labelled {entries : List Entries}
    (labelled : entries.any lacksLabel = false) (l : Labeller) (found : List Entries) :
    labelEntries l found entries = ⟨[], .ok (entries.map .map)⟩ := by
  rw [labelEntries_eq, map_withLabel_of_labelled labelled]
  rw [List.any_eq_false] at labelled
  have silent : entries.filter
      (fun es => lacksLabel es && (find l found (get es keyName)).isNull) = [] := by
    refine List.filter_eq_nil_iff.2 fun es member => ?_
    simp [labelled es member]
  rw [silent, List.map_nil]

/-- What loading does, when the documents for the keys are given if there are any keys. -/
theorem loadTexts_eq {host : Host} {cs : Catalogs} {l : Labeller} {entries : List Entries}
    {log : List Event} {found : List Entries}
    (done : entries.any lacksLabel = true →
      documents host cs l (missingKeys entries) = ⟨log, .ok found⟩) :
    loadTexts host cs l (entries.map .map)
      = ⟨(if entries.any lacksLabel then log else []) ++ (labelEntries l found entries).log,
          (labelEntries l found entries).outcome⟩ := by
  rw [loadTexts, spreadAll_map, ofExcept_ok_bind]
  cases missing : entries.any lacksLabel with
  | false =>
    rw [if_pos (missingKeys_eq_nil.2 missing), labelEntries_of_labelled missing]
    rfl
  | true =>
    rw [if_neg (missingKeys_ne_nil missing), done missing, Run.bind_of_ok rfl]
    rfl

theorem labelEntries_congr {l : Labeller} {found found' entries : List Entries}
    (same : ∀ key ∈ missingKeys entries, find l found key = find l found' key) :
    labelEntries l found entries = labelEntries l found' entries := by
  have sameLabel (es : Entries) (member : es ∈ entries) (needed : lacksLabel es = true) :
      find l found (get es keyName) = find l found' (get es keyName) :=
    same _ (List.mem_map.2 ⟨es, List.mem_filter.2 ⟨member, needed⟩, rfl⟩)
  have warned : entries.filter (fun es => lacksLabel es && (find l found (get es keyName)).isNull)
      = entries.filter fun es => lacksLabel es && (find l found' (get es keyName)).isNull := by
    refine List.filter_congr fun es member => ?_
    cases needed : lacksLabel es with
    | false => rfl
    | true => rw [sameLabel es member needed]
  have labelled : entries.map (withLabel l found) = entries.map (withLabel l found') := by
    refine List.map_congr_left fun es member => ?_
    unfold withLabel
    split
    next needed => rw [sameLabel es member needed]
    next => rfl
  rw [labelEntries_eq, labelEntries_eq, warned, labelled]

/-- The warnings are about the entries whose labels are null now, each with its key. -/
theorem warnings_labelEntries (l : Labeller) (found entries : List Entries) :
    (labelEntries l found entries).warnings =
      ((entries.zip (entries.map (withLabel l found))).filter fun e =>
          lacksLabel e.1 && (get e.2 labelName).isNull).map fun e =>
        .unlabelled l.labelField l.keyField (get e.1 keyName) l.criterion := by
  have all (kept : List Entries) : (kept.map fun es => Event.unlabelled l.labelField l.keyField
      (get es keyName) l.criterion).filter Event.isWarning = kept.map fun es =>
        Event.unlabelled l.labelField l.keyField (get es keyName) l.criterion := by
    rw [List.filter_eq_self]
    intro event member
    obtain ⟨es, _, rfl⟩ := List.mem_map.1 member
    rfl
  -- the labelled entry of a pair is a function of the other, so both sides filter the entries
  rw [Run.warnings, labelEntries_eq, all, ← List.map_prod_left_eq_zip, List.filter_map,
    List.map_map]
  refine congrArg _ (List.filter_congr fun es _ => ?_)
  cases needed : lacksLabel es with
  | false => simp [needed]
  | true => simp [needed, withLabel]

/-- Loading puts a label on every entry that lacks one.  There is one search, for the keys of these
entries, if there are any, and one warning for every label that is null, in the order of the
entries.  Documents that have none of the keys make no difference. -/
theorem loadTexts_labelled {host : Host} {cs : Catalogs} {l : Labeller} {engine k b : String}
    (consults : l.Consults engine k b) {entries : List Entries}
    (plain : ∀ key ∈ missingKeys entries, key.isMap = false) {found : List Entries}
    (finds : entries.any lacksLabel = true →
      host.search engine (queryClause k (missingKeys entries)) = .ok found) :
    let run := loadTexts host cs l (entries.map .map)
    let clause := queryClause k (missingKeys entries)
    (∃ labelled : List Entries, run.outcome = .ok (labelled.map .map) ∧
      List.Forall₂ (Labelled k b found) entries labelled ∧
      run.warnings = ((entries.zip labelled).filter fun e =>
          lacksLabel e.1 && (get e.2 labelName).isNull).map fun e =>
        .unlabelled (.str b) (.str k) (get e.1 keyName) l.criterion) ∧
    run.searches = (if entries.any lacksLabel then [(engine, clause)] else []) ∧
    clause.toValue = .map [(.str k, match missingKeys entries with
      | [key] => key
      | keys => .list keys)] ∧
    ∀ (host' : Host) (found' : List Entries),
      (entries.any lacksLabel = true → host'.search engine clause = .ok found') →
      found'.filter (fun d => decide (∃ key ∈ missingKeys entries, Has k key d))
        = found.filter (fun d => decide (∃ key ∈ missingKeys entries, Has k key d)) →
      loadTexts host' cs l (entries.map .map) = run := by
  intro run clause
  have value : clause.toValue = .map [(.str k, match missingKeys entries with
      | [key] => key
      | keys => .list keys)] := by
    change Clause.entry (.str k) (Value.collapse (askedItems k (missingKeys entries))) = _
    rw [askedItems_of_isMap plain]
    rfl
  have loads {host : Host} {found : List Entries}
      (finds : entries.any lacksLabel = true → host.search engine clause = .ok found) :=
    @loadTexts_eq host cs l entries _ found fun missing =>
      (documents_of_unmarked consults (fun key member => isMarked_of_isMap (plain key member))
        host cs).trans (congrArg (Run.mk _) (finds missing))
  -- all but the last part is read off this equation
  have eq : run = _ := loads finds
  refine ⟨⟨entries.map (withLabel l found), ?_, ?_, ?_⟩, ?_, value, ?_⟩
  · rw [eq, outcome_labelEntries]
  · rw [List.forall₂_map_right_iff]
    exact List.forall₂_same.2 fun es _ => labelled_withLabel consults found es
  · rw [← consults.labelField, ← consults.keyField, ← warnings_labelEntries, eq, Run.warnings,
      Run.warnings, List.filter_append]
    cases entries.any lacksLabel <;> rfl
  · have none : (labelEntries l found entries).searches = [] :=
      List.length_eq_zero_iff.1 (Nat.le_zero.1 (labelEntries_searches l found entries))
    rw [eq, Run.searches, List.filterMap_append]
    change _ ++ (labelEntries l found entries).searches = _
    rw [none]
    cases entries.any lacksLabel <;> rfl
  · intro host' found' finds' same
    have sameLabels : ∀ key ∈ missingKeys entries, find l found' key = find l found key := by
      intro key member
      -- both lists may be cut down to the documents with one of the keys
      have kept (document : Entries) (has : Has k key document) :
          decide (∃ key ∈ missingKeys entries, Has k key document) = true :=
        decide_eq_true ⟨key, member, has⟩
      rw [← find_filter consults fun document _ => kept document, same,
        find_filter consults fun document _ => kept document]
    rw [eq, loads finds', labelEntries_congr sameLabels]

theorem loadTexts_labelled_of_duplicates :
    let documents : List Entries := [[("id", .int 1), ("text", "One")], [("text", "Stray")],
      [("id", "1"), ("text", "Uno")], [("id", "2")], [("id", "9"), ("text", "Nine")]]
    let entries : List Entries := [[("key", .int 1)], [("key", "2"), ("text", "")],
      [("key", "3"), ("text", "Three")], []]
    let labelled : List Entries := [[("key", .int 1), ("text", "Uno")],
      [("key", "2"), ("text", .null)], [("key", "3"), ("text", "Three")], [("text", .null)]]
    let l : Labeller := ⟨.text, "id", "text", .engine "library", "author"⟩
    let host := Stock.host [("library", ⟨documents, .everything⟩)]
    let run := loadTexts host .initial l (entries.map .map)
    run.outcome = .ok (labelled.map .map) ∧
      List.Forall₂ (Labelled "id" "text" documents) entries labelled ∧
      run.warnings =
        [.unlabelled "text" "id" "2" "author", .unlabelled "text" "id" .null "author"] ∧
      run.searches = [("library", .matching .plain "id" (.list [.int 1, "2", .null]))] := by
  intro documents entries labelled l host run
  have consults : l.Consults "library" "id" "text" := ⟨rfl, rfl, rfl⟩
  have plain : ∀ key ∈ missingKeys entries, key.isMap = false := by decide +kernel
  have loads : run.outcome = .ok (labelled.map .map) := by decide +kernel
  obtain ⟨⟨labelled', loads', labels, warnings⟩, searches, _⟩ :=
    @loadTexts_labelled host .initial l _ _ _ consults entries plain documents fun _ => rfl
  obtain rfl : labelled' = labelled :=
    List.map_injective_iff.2 (fun _ _ => Value.map.inj) (Except.ok.inj (loads'.symm.trans loads))
  refine ⟨loads, labels, warnings.trans ?_, searches.trans ?_⟩
  · decide +kernel
  · decide +kernel

end Labels

end Criteria
