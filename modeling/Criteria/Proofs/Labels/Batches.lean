import Criteria.Proofs.Labels.Documents

/-! # Labels in batches

An engine that matches gives the documents whose keys are asked for, and what is asked for depends
on which entries are labelled together.  The labels do not.

* `Host.Matches` — an engine of a host that matches some documents;
* `Labels.find_of_asked`, `Labels.find_of_unasked` — what the documents give a key, by whether a
  query asks for it;
* `Labels.outcome_loadTexts` — every entry gets the label that all documents give its key;
* `Labels.loadTexts_append` — so a batch may be split, and loaded in part beforehand.
-/

namespace Criteria

open Entries Run Stock

/-- A text, a number, a truth value or null. -/
def Value.isScalar : Value → Bool
  | .null | .bool _ | .int _ | .float _ | .str _ => true
  | .list _ | .tuple _ | .map _ | .transform _ | .catalog _ | .engine _ | .options _ => false

theorem Value.isMap_of_isScalar {v : Value} (scalar : v.isScalar = true) : v.isMap = false := by
  cases v with
  | map es => cases scalar
  | _ => rfl

/-- The engine of a host with a name matches these documents. -/
def Host.Matches (host : Host) (engine : String) (documents : List Entries) : Prop :=
  ∀ clause, host.search engine clause = Engine.search ⟨documents, .matching⟩ clause

namespace Labels

/-! ## What a query finds -/

/-- Items that are put together as an operand are what the operand asks for, unless there is one
item and it is a list: then its own items are. -/
theorem wantedItems_collapse {items : List Value} (several : ∀ vs, items ≠ [.list vs]) :
    Engine.wantedItems (Value.collapse items) = items := by
  match items with
  | [] => rfl
  | [v] =>
    cases v with
    | list vs => exact absurd rfl (several vs)
    | _ => rfl
  | _ :: _ :: _ => rfl

theorem search_queryClause {host : Host} {engine : String} {documents : List Entries}
    (matching : host.Matches engine documents) (k : String) (keys : List Value) :
    host.search engine (queryClause k keys) = .ok (documents.filter
      (Engine.matchesField (.str k) (Value.collapse (askedItems k keys)))) :=
  matching _

section

variable {l : Labeller} {engine k b : String} (consults : l.Consults engine k b)

include consults

theorem find_of_asked {documents : List Entries} {key wanted : Value}
    (asked : ∃ v ∈ Engine.wantedItems wanted, v.text = key.text) :
    find l (documents.filter (Engine.matchesField (.str k) wanted)) key = find l documents key := by
  obtain ⟨v, member, same⟩ := asked
  refine find_filter consults fun document _ has => List.any_eq_true.2 ⟨v, member, ?_⟩
  rw [beq_iff_eq, same, has.2]

theorem find_of_unasked {documents : List Entries} {key wanted : Value}
    (unasked : ∀ v ∈ Engine.wantedItems wanted, v.text ≠ key.text) :
    find l (documents.filter (Engine.matchesField (.str k) wanted)) key = .null := by
  refine find_of_lacking consults fun document member has => ?_
  obtain ⟨v, wants, same⟩ := List.any_eq_true.1 (List.mem_filter.1 member).2
  exact unasked v wants ((beq_iff_eq.1 same).trans has.2)

/-! ## Loading -/

/-- An engine that matches gives every entry the label that all of its documents would. -/
theorem outcome_loadTexts {host : Host} {documents : List Entries}
    (matching : host.Matches engine documents) {entries : List Entries}
    (scalar : ∀ es ∈ entries, (get es keyName).isScalar = true) (cs : Catalogs) :
    (loadTexts host cs l (entries.map .map)).outcome
      = .ok ((entries.map (withLabel l documents)).map .map) := by
  have scalar : ∀ key ∈ missingKeys entries, key.isScalar = true := by
    intro key member
    obtain ⟨es, needed, rfl⟩ := List.mem_map.1 member
    exact scalar es (List.mem_filter.1 needed).1
  have plain : ∀ key ∈ missingKeys entries, key.isMap = false := fun key member =>
    Value.isMap_of_isScalar (scalar key member)
  have asksAll : Engine.wantedItems (Value.collapse (askedItems k (missingKeys entries)))
      = missingKeys entries := by
    rw [askedItems_of_isMap plain, wantedItems_collapse]
    -- a single key is no list that could be taken apart
    intro vs one
    have isList : (Value.list vs).isScalar = true := scalar _ (one ▸ List.mem_singleton_self _)
    cases isList
  have done := (documents_of_unmarked consults
    (fun key member => isMarked_of_isMap (plain key member)) host cs).trans
      (congrArg (Run.mk _) (search_queryClause matching k (missingKeys entries)))
  have sameLabels : ∀ key ∈ missingKeys entries,
      find l (documents.filter (Engine.matchesField (.str k)
        (Value.collapse (askedItems k (missingKeys entries))))) key = find l documents key :=
    fun key member => find_of_asked consults ⟨key, by rwa [asksAll], rfl⟩
  rw [loadTexts_eq fun _ => done, labelEntries_congr sameLabels, outcome_labelEntries]

end

theorem get_key_withLabel (l : Labeller) (found : List Entries) (es : Entries) :
    get (withLabel l found es) keyName = get es keyName := by
  unfold withLabel
  split
  · exact get_insert_of_ne _ (by decide)
  · rfl

theorem withLabel_withLabel (l : Labeller) (found : List Entries) (es : Entries) :
    withLabel l found (withLabel l found es) = withLabel l found es := by
  cases again : lacksLabel (withLabel l found es) with
  | false => rw [withLabel, again]; rfl
  | true =>
    -- the label is none, and the same one is put on once more
    have needed := ((lacksLabel_withLabel l found es).1 again).1
    rw [withLabel, if_pos again, get_key_withLabel, withLabel, if_pos needed, insert_insert_str]

theorem map_withLabel_of_mixed {l : Labeller} {found entries zs : List Entries}
    (mixed : List.Forall₂ (fun es z => z = es ∨ z = withLabel l found es) entries zs) :
    zs.map (withLabel l found) = entries.map (withLabel l found) ∧
      zs.map (fun z => get z keyName) = entries.map fun es => get es keyName := by
  induction mixed with
  | nil => exact ⟨rfl, rfl⟩
  | cons first rest inductionHypothesis =>
    obtain ⟨labels, keys⟩ := inductionHypothesis
    rcases first with rfl | rfl
    · exact ⟨congrArg (_ :: ·) labels, congrArg (_ :: ·) keys⟩
    · simp only [List.map_cons, withLabel_withLabel, get_key_withLabel, labels, keys, and_self]

/-- Loading a batch is loading its parts, down to every entry on its own, and it makes no difference
which of the entries were loaded before. -/
theorem loadTexts_append {host : Host} {cs : Catalogs} {l : Labeller} {engine k b : String}
    (consults : l.Consults engine k b) {documents : List Entries}
    (matching : host.Matches engine documents) {xs ys : List Entries}
    (scalar : ∀ es ∈ xs ++ ys, (get es keyName).isScalar = true) :
    let load (entries : List Entries) := (loadTexts host cs l (entries.map .map)).outcome
    ∃ xs' ys' : List Entries, load xs = .ok (xs'.map .map) ∧ load ys = .ok (ys'.map .map) ∧
      load (xs ++ ys) = .ok ((xs' ++ ys').map .map) ∧
      List.Forall₂ (fun es es' => load [es] = .ok [.map es']) (xs ++ ys) (xs' ++ ys') ∧
      ∀ zs : List Entries,
        List.Forall₂ (fun e z => z = e.1 ∨ z = e.2) ((xs ++ ys).zip (xs' ++ ys')) zs →
          load zs = .ok ((xs' ++ ys').map .map) := by
  intro load
  have loads {entries : List Entries} (scalar : ∀ es ∈ entries, (get es keyName).isScalar = true) :
      load entries = .ok ((entries.map (withLabel l documents)).map .map) :=
    outcome_loadTexts consults matching scalar cs
  have alone {es : Entries} (member : es ∈ xs ++ ys) :
      load [es] = .ok [.map (withLabel l documents es)] :=
    loads fun _ only => List.mem_singleton.1 only ▸ scalar es member
  obtain ⟨scalarXs, scalarYs⟩ := List.forall_mem_append.1 scalar
  refine ⟨xs.map (withLabel l documents), ys.map (withLabel l documents), loads scalarXs,
    loads scalarYs, ?_, ?_, fun zs mixed => ?_⟩
  · rw [loads scalar, List.map_append]
  · rw [← List.map_append, List.forall₂_map_right_iff]
    exact List.forall₂_same.2 fun es member => alone member
  · rw [← List.map_append, ← List.map_prod_left_eq_zip, List.forall₂_map_left_iff] at mixed
    obtain ⟨labels, keys⟩ := map_withLabel_of_mixed mixed
    rw [← List.map_append, ← labels]
    -- labels leave the keys alone, so they are scalars still
    refine loads fun z member => ?_
    have isKey : get z keyName ∈ (xs ++ ys).map fun es => get es keyName :=
      keys ▸ List.mem_map_of_mem member
    obtain ⟨es, member, same⟩ := List.mem_map.1 isKey
    exact same ▸ scalar es member

theorem loadTexts_append_of_duplicates :
    let documents : List Entries := [[("id", .int 1), ("text", "One")],
      [("id", "2"), ("text", "Two")], [("id", "1"), ("text", "Uno")]]
    let host := Stock.host [("library", ⟨documents, .matching⟩)]
    let l : Labeller := ⟨.text, "id", "text", .engine "library", "author"⟩
    let load (entries : List Entries) := (loadTexts host .initial l (entries.map .map)).outcome
    let xs : List Entries := [[("key", "1")]]
    let ys : List Entries := [[("key", .int 2)], []]
    let xs' : List Entries := [[("key", "1"), ("text", "Uno")]]
    let ys' : List Entries := [[("key", .int 2), ("text", "Two")], [("text", .null)]]
    load xs = .ok (xs'.map .map) ∧ load ys = .ok (ys'.map .map) ∧
      load (xs ++ ys) = .ok ((xs' ++ ys').map .map) ∧
      load (xs' ++ ys) = .ok ((xs' ++ ys').map .map) := by
  intro documents host l load xs ys xs' ys'
  have consults : l.Consults "library" "id" "text" := ⟨rfl, rfl, rfl⟩
  have matching : host.Matches "library" documents := fun _ => rfl
  have scalar : ∀ es ∈ xs ++ ys, (get es keyName).isScalar = true := by decide +kernel
  have loadXs : load xs = .ok (xs'.map .map) := by decide +kernel
  have loadYs : load ys = .ok (ys'.map .map) := by decide +kernel
  obtain ⟨us, vs, loadUs, loadVs, together, _, again⟩ :=
    @loadTexts_append host .initial l _ _ _ consults documents matching xs ys scalar
  have injective : Function.Injective (List.map Value.map) :=
    List.map_injective_iff.2 fun _ _ => Value.map.inj
  obtain rfl : us = xs' := injective (Except.ok.inj (loadUs.symm.trans loadXs))
  obtain rfl : vs = ys' := injective (Except.ok.inj (loadVs.symm.trans loadYs))
  refine ⟨loadXs, loadYs, together, again _ ?_⟩
  exact .cons (.inr rfl) (.cons (.inl rfl) (.cons (.inl rfl) .nil))

end Labels

end Criteria
