import Criteria.Proofs.Labels.Documents
import Criteria.Proofs.Value.Written

/-! # Entries without a key

The text labeller compares keys by their text, and an absent key has a text as well.

* `Labels.isKeyless` — an entry that needs a label and has no key to look it up by;
* `Labels.NamedNull` — a document whose key is the text that spells null;
* `Labels.loadTexts_keyless` — the labels of entries without a key.

Documents whose key is null are left out, so no other document is taken for one of an absent key:
numbers, truth values and sequences are never written as null is (`Value.text_eq_text_null`).
-/

namespace Criteria

open Entries

namespace Labels

/-- Whether an entry needs a label and has no key, or null for its key. -/
def isKeyless (es : Entries) : Bool :=
  lacksLabel es && (get es keyName).isNull

/-- A document whose key is the text that spells null. -/
def NamedNull (k : String) (document : Entries) : Prop :=
  get document k = .str Value.wording.null

/-- The documents that have an absent key are those whose key spells null. -/
theorem has_null {k : String} {document : Entries} :
    Has k .null document ↔ NamedNull k document := by
  rw [Has, Value.text_eq_text_null, NamedNull]
  constructor
  · rintro ⟨given, isNull | named⟩
    · exact absurd isNull given
    · exact named
  · intro named
    rw [named]
    exact ⟨by simp, .inr rfl⟩

/-- What becomes of an entry without a key: it differs in its label alone, which is null unless the
key of some document spells null, and the label of the last such document then. -/
structure LabelledKeyless (k b : String) (found : List Entries) (es es' : Entries) : Prop where
  unnamed : (∀ document ∈ found, ¬ NamedNull k document) → get? es' labelName = some .null
  named : ∀ before document after, found = before ++ document :: after → NamedNull k document →
    (∀ other ∈ after, ¬ NamedNull k other) → get? es' labelName = some (get document b)
  others : ∀ key : Value, key.sameKey labelName = false → get? es' key = get? es key

theorem Labelled.keyless {k b : String} {found : List Entries} {es es' : Entries}
    (labelled : Labelled k b found es es') (keyless : isKeyless es = true) :
    LabelledKeyless k b found es es' := by
  rw [isKeyless, Bool.and_eq_true, lacksLabel, Bool.not_eq_true', Value.isNull_eq_true] at keyless
  obtain ⟨needed, noKey⟩ := keyless
  obtain ⟨v, isLabel, gives⟩ := labelled.label needed
  rw [noKey] at gives
  refine ⟨fun unnamed => ?_, fun before document after split named last => ?_, labelled.others⟩
  · have lacks : Gives k b found .null .null :=
      .nothing fun document member has => unnamed document member (has_null.1 has)
    rw [isLabel, gives.unique lacks]
  · have given : Gives k b found .null (get document b) :=
      .last split (has_null.2 named) fun other member has => last other member (has_null.1 has)
    rw [isLabel, gives.unique given]

/-- Loading succeeds with any documents, and the entries without a key get no label but the one of
the last document whose key spells null, if there is one.  What else the documents have for keys,
and what keys the other entries have, makes no difference to them. -/
theorem loadTexts_keyless {l : Labeller} {engine k b : String} (consults : l.Consults engine k b)
    (host : Host) (cs : Catalogs) (entries : List Entries) :
    ∃ clause, ∀ found : List Entries,
      (entries.any lacksLabel = true → host.search engine clause = .ok found) →
      ∃ labelled : List Entries,
        (loadTexts host cs l (entries.map .map)).outcome = .ok (labelled.map .map) ∧
        List.Forall₂ (fun es es' => isKeyless es = true → LabelledKeyless k b found es es')
          entries labelled := by
  -- the keys of the other entries may be marked, so nothing is said of what the clause looks like
  obtain ⟨clause, searches⟩ := outcome_documents consults host cs (missingKeys entries)
  refine ⟨clause, fun found finds => ⟨entries.map (withLabel l found), ?_, ?_⟩⟩
  · rw [loadTexts_eq fun missing => congrArg (Run.mk _) (searches.trans (finds missing)),
      outcome_labelEntries]
  · rw [List.forall₂_map_right_iff]
    exact List.forall₂_same.2 fun es _ => (labelled_withLabel consults found es).keyless

theorem loadTexts_keyless_of_namesakes :
    let documents : List Entries := [[("id", .null), ("text", "Null")],
      [("id", "None"), ("text", "Nobody")], [("id", "1"), ("text", "One")],
      [("id", "None"), ("text", "No one")], [("id", .bool false), ("text", "False")]]
    let entries : List Entries := [[("key", .null)], [("key", "1")], [("note", "x")],
      [("key", .map [("key", "2"), ("user_query", .bool true)])], [("text", "Kept")]]
    let labelled : List Entries := [[("key", .null), ("text", "No one")],
      [("key", "1"), ("text", "One")], [("note", "x"), ("text", "No one")],
      [("key", .map [("key", "2"), ("user_query", .bool true)]), ("text", .null)],
      [("text", "Kept")]]
    let l : Labeller := ⟨.text, "id", "text", .engine "library", "author"⟩
    let host := Stock.host [("library", ⟨documents, .everything⟩)]
    (loadTexts host .initial l (entries.map .map)).outcome = .ok (labelled.map .map) ∧
      List.Forall₂
        (fun es es' => isKeyless es = true → LabelledKeyless "id" "text" documents es es')
        entries labelled ∧
      entries.map isKeyless = [true, false, true, false, false] := by
  intro documents entries labelled l host
  have consults : l.Consults "library" "id" "text" := ⟨rfl, rfl, rfl⟩
  have loads :
      (loadTexts host .initial l (entries.map .map)).outcome = .ok (labelled.map .map) := by
    decide +kernel
  obtain ⟨clause, finds⟩ := loadTexts_keyless consults host .initial entries
  obtain ⟨labelled', loads', labels⟩ := finds documents fun _ => rfl
  obtain rfl : labelled' = labelled :=
    List.map_injective_iff.2 (fun _ _ => Value.map.inj) (Except.ok.inj (loads'.symm.trans loads))
  exact ⟨loads, labels, by decide +kernel⟩

/-- One document whose key spells null labels the entries without a key, and nothing warns of it. -/
theorem keyless_labelled_by_namesake :
    let l : Labeller := ⟨.text, "id", "text", .engine "library", "author"⟩
    let host := Stock.host [("library", ⟨[[("id", "None"), ("text", "Nobody")]], .matching⟩)]
    let run := loadTexts host .initial l
      [.map [("key", .null)], .map [("note", "x")], .map [("key", "None")]]
    run.outcome = .ok [.map [("key", .null), ("text", "Nobody")],
      .map [("note", "x"), ("text", "Nobody")], .map [("key", "None"), ("text", "Nobody")]] ∧
    run.warnings = [] := by
  decide +kernel

end Labels

end Criteria
