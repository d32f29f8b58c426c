import Criteria.Proofs.Labels.Batches

/-! # Labels that are available

When an engine that matches has a label for a key, an entry with the key gets the label, provided
that the query asks for the key.

* `Labels.Asks` — whether a query for some keys asks for the documents of a key;
* `Labels.asks_of_mem` — it does for each of its own keys, apart from mappings and single lists;
* `Run.WarnsOf` — runs that warn of a key;
* `Criterion.label_available` — the label of an entry, by what the documents give its key.

A query that is not single replaces mappings by their own keys, and a list that is the only thing
asked for stands for its items.
-/

namespace Criteria

open Entries Run Stock

/-- A run that warns of a key, under any field names and for any criterion. -/
def Run.WarnsOf {α : Type} (run : Run α) (key : Value) : Prop :=
  ∃ b k name, Event.unlabelled b k key name ∈ run.log

namespace Labels

/-! ## What a query asks for -/

def Asks (k : String) (keys : List Value) (key : Value) : Prop :=
  ∃ v ∈ Engine.wantedItems (Value.collapse (askedItems k keys)), v.text = key.text

theorem mem_askedItems {k : String} {keys : List Value} {key : Value} (member : key ∈ keys)
    (plain : key.isMap = true → k = keywordsName) : key ∈ askedItems k keys := by
  unfold askedItems
  split
  next => exact member
  next plural =>
    have other : key.isMap = false := Bool.eq_false_iff.2 fun isMap => plural (plain isMap)
    exact List.mem_map.2 ⟨key, member, entryKey_of_isMap other⟩

theorem length_askedItems (k : String) (keys : List Value) :
    (askedItems k keys).length = keys.length := by
  unfold askedItems
  split
  · rfl
  · exact List.length_map _

theorem asks_of_mem {k : String} {keys : List Value} {key : Value} (member : key ∈ keys)
    (plain : key.isMap = true → k = keywordsName) (several : ∀ vs, key = .list vs → keys ≠ [key]) :
    Asks k keys key := by
  have asked := mem_askedItems member plain
  refine ⟨key, ?_, rfl⟩
  rw [wantedItems_collapse]
  · exact asked
  · -- a list that is asked for alone is the key itself
    intro vs alone
    rw [alone, List.mem_singleton] at asked
    have single : keys.length = 1 := by rw [← length_askedItems k, alone]; rfl
    obtain ⟨only, rfl⟩ := List.length_eq_one_iff.1 single
    rw [List.mem_singleton] at member
    exact several vs asked (by rw [member])

/-! ## Loading -/

theorem warnsOf_labelEntries {l : Labeller} {found entries : List Entries} {key : Value} :
    (labelEntries l found entries).WarnsOf key ↔
      key ∈ missingKeys entries ∧ find l found key = .null := by
  simp only [WarnsOf, labelEntries_eq, missingKeys, List.mem_map, List.mem_filter,
    Bool.and_eq_true, Value.isNull_eq_true]
  constructor
  · rintro ⟨b, k, name, es, ⟨member, needed, none⟩, warning⟩
    cases warning
    exact ⟨⟨es, ⟨member, needed⟩, rfl⟩, none⟩
  · rintro ⟨⟨es, ⟨member, needed⟩, rfl⟩, none⟩
    exact ⟨l.labelField, l.keyField, l.criterion, es, ⟨member, needed, none⟩, rfl⟩

end Labels

namespace Criterion

theorem label_of_documents {host : Host} {cs : Catalogs} {c : Criterion} {l : Labeller}
    (made : (c.labeller host cs).outcome = .ok l) (text : l.kind = .text) {entries : List Entries}
    (values : c.values = entries.map .map) {log : List Event} {found : List Entries}
    (done : Labels.documents host cs l (Labels.missingKeys entries) = ⟨log, .ok found⟩) :
    (c.label host cs).1.values = (entries.map (Labels.withLabel l found)).map .map ∧
      (c.label host cs).2 = ⟨(if entries.any Labels.lacksLabel then log else [])
        ++ (Labels.labelEntries l found entries).log, .ok (entries.any Labels.lacksLabel)⟩ := by
  have needs := needsLabels_of_map values
  cases missing : entries.any Labels.lacksLabel with
  | false =>
    rw [label_of_labelled (needs.trans missing), values,
      Labels.labelEntries_of_labelled missing, Labels.map_withLabel_of_labelled missing]
    exact ⟨rfl, rfl⟩
  | true =>
    have loads := Labels.loadTexts_eq fun _ => done
    rw [missing, Labels.outcome_labelEntries, ← values] at loads
    have counted : ((entries.map (Labels.withLabel l found)).map Value.map).length
        = (Value.list c.values).items.length := by
      rw [Value.items_list, values, List.length_map, List.length_map, List.length_map]
    rw [label_of_loaded (needs.trans missing) made (Labeller.load_text text host cs c.values)
      (congrArg Run.outcome loads) counted,
      labeller_of_builtIn made (Labeller.not_isCustom_of_text text), loads]
    exact ⟨rfl, rfl⟩

/-- A labelling over an engine that matches, without marked keys, always succeeds.  An entry that
lacks its label gets the one that all documents give its key, and is warned of if this is none, if
the query asks for its key; otherwise it gets none and is warned of.  The query asks for all keys,
except for mappings, unless it is single, and except for a list that is the only key. -/
theorem label_available {host : Host} {cs : Catalogs} {c : Criterion} {l : Labeller}
    {engine : String} (made : (c.labeller host cs).outcome = .ok l) (text : l.kind = .text)
    (isEngine : c.setting .engine = .engine engine) {documents : List Entries}
    (matching : host.Matches engine documents) {entries : List Entries}
    (values : c.values = entries.map .map)
    (unmarked : ∀ key ∈ Labels.missingKeys entries, key.isMarked = false) :
    let run := (c.label host cs).2
    let keys := Labels.missingKeys entries
    ∃ k b labelled, l.Consults engine k b ∧
      (c.label host cs).1.values = labelled.map .map ∧
      run.outcome = .ok (entries.any Labels.lacksLabel) ∧
      List.Forall₂ (fun es es' => Labels.lacksLabel es = true →
        (Labels.Asks k keys (get es Labels.keyName) →
          ∃ v, Labels.Gives k b documents (get es Labels.keyName) v ∧
            get? es' Labels.labelName = some v ∧
            (run.WarnsOf (get es Labels.keyName) ↔ v = .null)) ∧
        (¬ Labels.Asks k keys (get es Labels.keyName) →
          get? es' Labels.labelName = some .null ∧ run.WarnsOf (get es Labels.keyName)))
        entries labelled ∧
      ∀ key ∈ keys, (key.isMap = true → k = keywordsName) →
        (∀ vs, key = .list vs → keys ≠ [key]) → Labels.Asks k keys key := by
  intro run keys
  obtain ⟨k, b, consults, _⟩ := consults_of_labeller made text isEngine
  let wanted := Value.collapse (Labels.askedItems k keys)
  let found := documents.filter (Engine.matchesField (.str k) wanted)
  have done : Labels.documents host cs l keys = ⟨_, .ok found⟩ :=
    (Labels.documents_of_unmarked consults unmarked host cs).trans
      (congrArg (Run.mk _) (Labels.search_queryClause matching k keys))
  obtain ⟨labels, runs⟩ := label_of_documents made text values done
  have warns (key : Value) (member : key ∈ keys) :
      run.WarnsOf key ↔ Labels.find l found key = .null := by
    have labelling := @Labels.warnsOf_labelEntries l found entries key
    rw [and_iff_right member] at labelling
    rw [← labelling, show run = _ from runs]
    -- the query and the search warn of nothing
    simp only [WarnsOf, List.mem_append]
    split <;> simp
  refine ⟨k, b, _, consults, labels, congrArg Run.outcome runs, ?_,
    fun _ => Labels.asks_of_mem⟩
  rw [List.forall₂_map_right_iff, List.forall₂_same]
  intro es member needed
  have warned := warns _ (List.mem_map.2 ⟨es, List.mem_filter.2 ⟨member, needed⟩, rfl⟩)
  have label : get? (Labels.withLabel l found es) Labels.labelName
      = some (Labels.find l found (get es Labels.keyName)) := by
    rw [Labels.withLabel, if_pos needed, get?_insert_str]
  refine ⟨fun asked => ⟨_, (Labels.gives_iff consults).2 rfl, ?_⟩, fun unasked => ?_⟩
  · rw [Labels.find_of_asked consults asked] at label warned
    exact ⟨label, warned⟩
  · have none : Labels.find l found (get es Labels.keyName) = .null :=
      Labels.find_of_unasked consults fun v wants same => unasked ⟨v, wants, same⟩
    rw [none] at label warned
    exact ⟨label, warned.2 rfl⟩

theorem label_available_of_lists :
    let documents : List Entries := [[("id", "1"), ("text", "One")],
      [("id", .list [.int 1, .int 2]), ("text", "Pair")], [("id", "1"), ("text", "Uno")]]
    let host := Stock.host [("library", ⟨documents, .matching⟩)]
    let entries : List Entries := [[("key", .int 1)], [("key", .list [.int 1, .int 2])]]
    ∃ c, (Construction.ofConfig (.map [("name", "author"), ("search_context", .engine "library"),
        ("values", .list (entries.map .map))])).build .initial = .ok c ∧
      (c.label host .initial).2.outcome = .ok true ∧
      ∃ first second : Entries, (c.label host .initial).1.values = [.map first, .map second] ∧
        get? first "text" = some (.str "Uno") ∧ get? second "text" = some (.str "Pair") ∧
        ¬ (c.label host .initial).2.WarnsOf (.list [.int 1, .int 2]) := by
  intro documents host entries
  let config : Value := .map [("name", "author"), ("search_context", .engine "library"),
    ("values", .list (entries.map .map))]
  let build := (Construction.ofConfig config).build .initial
  have made : build.map (fun c => (c.setting .engine, c.values))
      = .ok (.engine "library", entries.map .map) := by
    decide +kernel
  have labellers : (build.bind fun c => (c.labeller host .initial).outcome.map fun l =>
      (l.kind, l.keyField, l.labelField)) = .ok (.text, "id", "text") := by
    decide +kernel
  obtain ⟨c, l, builds, facts, isLabeller, fields⟩ := exists_labeller made labellers
  simp only [Prod.mk.injEq] at facts fields
  obtain ⟨isEngine, values⟩ := facts
  obtain ⟨isText, isKey, isLabel⟩ := fields
  have matching : host.Matches "library" documents := fun _ => rfl
  obtain ⟨k, b, labelled, consults, labels, done, each, asks⟩ :=
    label_available isLabeller isText isEngine matching values (by decide +kernel)
  obtain rfl : "id" = k := Value.str.inj (isKey.symm.trans consults.keyField)
  obtain rfl : "text" = b := Value.str.inj (isLabel.symm.trans consults.labelField)
  obtain ⟨first, _, one, others, rfl⟩ := List.forall₂_cons_left_iff.1 each
  obtain ⟨second, _, two, none, rfl⟩ := List.forall₂_cons_left_iff.1 others
  obtain rfl := List.forall₂_nil_left_iff.1 none
  have asked (key : Value) (member : key ∈ Labels.missingKeys entries) :
      Labels.Asks "id" (Labels.missingKeys entries) key := by
    have plain : ∀ key ∈ Labels.missingKeys entries, key.isMap = false := by decide +kernel
    refine asks key member (fun isMap => ?_) fun _ _ only => ?_
    · rw [plain key member] at isMap
      cases isMap
    · cases congrArg List.length only
  have uno : Labels.Gives "id" "text" documents (.int 1) (.str "Uno") :=
    @Labels.Gives.last _ _ _ _ (documents.take 2) [] _ rfl (by decide +kernel) nofun
  have pair : Labels.Gives "id" "text" documents (.list [.int 1, .int 2]) (.str "Pair") :=
    @Labels.Gives.last _ _ _ _ (documents.take 1) (documents.drop 2) _ rfl (by decide +kernel)
      (by decide +kernel)
  obtain ⟨v, gives, isUno, _⟩ := (one rfl).1 (asked _ (by decide +kernel))
  obtain rfl := gives.unique uno
  obtain ⟨v, gives, isPair, warned⟩ := (two rfl).1 (asked _ (by decide +kernel))
  obtain rfl := gives.unique pair
  exact ⟨c, builds, done, first, second, labels, isUno, isPair, fun warns => nomatch warned.1 warns⟩

/-- A later document without a label, a list that is the only key, a mapping, and a marked mapping
next to another key: each time a document has the key and a label, and the entry is left without one
and is warned of. -/
theorem labels_lost :
    let labelled (documents entries : List Entries) :
        Except Fault (Except Fault Bool × List Value × List Event) :=
      ((Construction.ofConfig (.map [("name", "author"), ("search_context", .engine "library"),
        ("values", .list (entries.map .map))])).build .initial).map fun c =>
          let label := c.label (Stock.host [("library", ⟨documents, .matching⟩)]) .initial
          (label.2.outcome, label.1.values, label.2.warnings)
    labelled [[("id", "1"), ("text", "One")], [("id", "1")]] [[("key", "1")]]
        = .ok (.ok true, [.map [("key", "1"), ("text", .null)]],
          [.unlabelled "text" "id" "1" "author"]) ∧
      labelled [[("id", .list [.int 1, .int 2]), ("text", "Pair")]]
          [[("key", .list [.int 1, .int 2])]]
        = .ok (.ok true, [.map [("key", .list [.int 1, .int 2]), ("text", .null)]],
          [.unlabelled "text" "id" (.list [.int 1, .int 2]) "author"]) ∧
      labelled [[("id", .map [("key", .int 5)]), ("text", "Five")]]
          [[("key", .map [("key", .int 5)])]]
        = .ok (.ok true, [.map [("key", .map [("key", .int 5)]), ("text", .null)]],
          [.unlabelled "text" "id" (.map [("key", .int 5)]) "author"]) ∧
      labelled [[("id", "1"), ("text", "One")]]
          [[("key", "1")], [("key", .map [("user_query", .bool true)])]]
        = .ok (.ok true, [.map [("key", "1"), ("text", .null)],
            .map [("key", .map [("user_query", .bool true)]), ("text", .null)]],
          [.unlabelled "text" "id" "1" "author",
            .unlabelled "text" "id" (.map [("user_query", .bool true)]) "author"]) := by
  refine ⟨?_, ?_, ?_, ?_⟩ <;> decide +kernel

end Criterion

end Criteria
