import Criteria.Proofs.Clause.Labelling
import Criteria.Proofs.Text.Lowercase

/-! # Clauses in lower case

An analysed criterion matches texts in lower case, so it does not matter whether its values are in
lower case already.

* `Value.Recased` — a value, and what may stand in its place;
* `Criterion.word`, `Criterion.words` — what an analysed criterion matches in place of its values;
* `Criterion.clause_recased` — values in lower case give the clause of the values as they were.

Marked values are another matter: they belong to the override criterion, which need not be analysed.
-/

namespace Criteria

open Entries

/-! ## Values in lower case -/

/-- A value and what may stand in its place: the value itself, a text in lower case, or an entry of
a criterion that is not single, with its key in lower case. -/
inductive Value.Recased (single : Bool) : Value → Value → Prop where
  | same (v : Value) : Recased single v v
  | text (s : String) : Recased single (.str s) (.str (Text.lowercase s))
  | key {es : Entries} {s : String} (plural : single = false)
      (own : (Value.map es).isMarked = false) (isText : get es Labels.keyName = .str s) :
      Recased single (.map es) (.map (insert es Labels.keyName (.str (Text.lowercase s))))

@[simp] theorem Value.lowered_lowered (v : Value) : v.lowered.lowered = v.lowered := by
  cases v with
  | str s => exact congrArg Value.str (Text.lowercase_lowercase s)
  | _ => rfl

theorem Value.isMarked_insert_key (es : Entries) (v : Value) :
    (Value.map (insert es Labels.keyName v)).isMarked = (Value.map es).isMarked := by
  have other : Labels.keyName ≠ markerName := by decide
  rw [isMarked, get_insert_of_ne v other, isMarked]

namespace Value.Recased

variable {single : Bool} {v w : Value}

theorem isMarked_eq (recased : Recased single v w) : w.isMarked = v.isMarked := by
  cases recased with
  | same | text => rfl
  | key _ _ _ => exact isMarked_insert_key _ _

theorem eq_of_marked (recased : Recased single v w) (marked : v.isMarked = true) : w = v := by
  cases recased with
  | same => rfl
  | text => cases marked
  | key _ own _ => cases own.symm.trans marked

end Value.Recased

namespace Criterion

/-! ## What is matched -/

/-- What an analysed criterion matches in place of a value. -/
def word (c : Criterion) (v : Value) : Value :=
  (if c.isSingle then v else v.entryKey).lowered

/-- What an analysed criterion matches in place of its own values. -/
def words (c : Criterion) : List Value :=
  c.unmarked.map c.word

theorem operand_of_analyzed {c : Criterion} (analyzed : c.flag .analyzed = true)
    (vs : List Value) : c.operand vs = Value.collapse (vs.map c.word) := by
  rw [operand, analyzed]
  unfold word
  cases c.isSingle with
  | true => rfl
  | false => simp only [Bool.false_eq_true, ↓reduceIte, List.map_map, Function.comp_def]

theorem word_of_recased {c : Criterion} {v w : Value} (recased : Value.Recased c.isSingle v w) :
    c.word w = c.word v := by
  cases recased with
  | same => rfl
  | text s =>
    have keys (t : String) : (if c.isSingle then .str t else (Value.str t).entryKey) = .str t :=
      ite_self _
    rw [word, word, keys, keys]
    exact (Value.str s).lowered_lowered
  | key plural own isText =>
    rw [word, word, plural]
    simp only [Bool.false_eq_true, ↓reduceIte, Value.entryKey, get_insert_str, isText]
    exact (Value.str _).lowered_lowered

section

variable {c : Criterion} {values values' : List Value}
  (recased : List.Forall₂ (Value.Recased c.isSingle) values values')

include recased

theorem words_of_recased :
    (values'.filter fun v => !v.isMarked).map c.word
      = (values.filter fun v => !v.isMarked).map c.word := by
  induction recased with
  | nil => rfl
  | cons first _ inductionHypothesis =>
    rw [List.filter_cons, List.filter_cons, first.isMarked_eq]
    split
    · rw [List.map_cons, List.map_cons, word_of_recased first, inductionHypothesis]
    · exact inductionHypothesis

theorem filter_isMarked_of_recased :
    values'.filter Value.isMarked = values.filter Value.isMarked := by
  induction recased with
  | nil => rfl
  | cons first _ inductionHypothesis =>
    rw [List.filter_cons, List.filter_cons, first.isMarked_eq]
    split
    next isMarked => rw [first.eq_of_marked isMarked, inductionHypothesis]
    next => exact inductionHypothesis

end

/-- The main clause of an analysed criterion is made of its words. -/
theorem mainClause_of_analyzed {c : Criterion} (analyzed : c.flag .analyzed = true) :
    c.mainClause = c.clauseField.map fun field =>
      .matching c.form field (Value.collapse c.words) := by
  rw [mainClause, operand_of_analyzed analyzed, words]

theorem word_of_word {c d : Criterion} {s : String} (isWord : .str s ∈ c.words) :
    d.word (.str s) = .str s := by
  obtain ⟨v, _, isText⟩ := List.mem_map.1 isWord
  have fixed : (Value.str s).lowered = .str s := by
    rw [← isText, word, Value.lowered_lowered]
  have itself : (if d.isSingle then .str s else (Value.str s).entryKey) = .str s := ite_self _
  rw [word, itself, fixed]

/-- Texts and keys of an analysed criterion may be put in lower case, any of them that are not
marked, and its compilation does the same and gives the same clause.  Texts that such a compilation
has given are given back as they are by another one, on their own or among others. -/
theorem clause_recased {c : Criterion} (analyzed : c.flag .analyzed = true) {values : List Value}
    (recased : List.Forall₂ (Value.Recased c.isSingle) c.values values) (host : Host)
    (cs : Catalogs) :
    (c.setValues (.list values)).clause host cs = c.clause host cs ∧
    c.mainClause = (c.clauseField.map fun field =>
      .matching c.form field (Value.collapse c.words)) ∧
    ∀ (d : Criterion) (texts : List String), d.flag .analyzed = true →
      (∀ s ∈ texts, .str s ∈ c.words) →
        d.operand (texts.map .str) = Value.collapse (texts.map .str) := by
  let d := c.setValues (.list values)
  have words : d.words = c.words := words_of_recased recased
  have main : d.mainClause = c.mainClause := by
    rw [mainClause_of_analyzed (c := c) analyzed, ← words]
    exact mainClause_of_analyzed (c := d) analyzed
  have marked : d.marked = c.marked :=
    congrArg (List.map Value.unmark) (filter_isMarked_of_recased recased)
  have settings : d.setting = c.setting := rfl
  have same : d.clause host cs = c.clause host cs :=
    clause_congr_of_parts settings host cs main marked
  refine ⟨same, mainClause_of_analyzed analyzed, fun d texts analyzed' produced => ?_⟩
  rw [operand_of_analyzed analyzed', List.map_map]
  refine congrArg Value.collapse (List.map_congr_left fun s member => ?_)
  exact word_of_word (produced s member)

theorem clause_recased_of_sigma :
    let marked : Value := .map [("key", "Ba"), ("user_query", .bool true)]
    let config : Value := .map [("name", "name"), ("search_analyzed", .bool true),
      ("user_query", .map [("query_name", "all")]),
      ("values", .list ["ΌΣΟΣ", .map [("key", "İ")], marked, .int 3])]
    let values : List Value := ["όσος", .map [("key", "i̇")], marked, .int 3]
    ∃ c, (Construction.ofConfig config).build .initial = .ok c ∧
      c.flag .analyzed = true ∧ List.Forall₂ (Value.Recased c.isSingle) c.values values ∧
      (c.setValues (.list values)).clause (Stock.host []) .initial
        = c.clause (Stock.host []) .initial ∧
      (c.clause (Stock.host []) .initial).outcome = .ok (.either
        (.matching .plain "name.analyzed" (.list ["όσος", "i̇", .int 3]))
        (.matching .plain "all" "Ba")) ∧
      Criterion.operand c (["όσος", "i̇"].map .str) = .list ["όσος", "i̇"] := by
  intro marked config values
  have made : ((Construction.ofConfig config).build .initial).map (fun c =>
      (c.flag .analyzed, c.isSingle, c.values, c.words))
        = .ok (true, false, ["ΌΣΟΣ", .map [("key", "İ")], marked, .int 3],
          ["όσος", "i̇", .int 3]) := by
    decide +kernel
  have compiles : ((Construction.ofConfig config).build .initial).bind (fun c =>
      (c.clause (Stock.host []) .initial).outcome)
        = .ok (.either (.matching .plain "name.analyzed" (.list ["όσος", "i̇", .int 3]))
          (.matching .plain "all" "Ba")) := by
    decide +kernel
  obtain ⟨c, builds, facts⟩ := Outcome.map_eq_ok.1 made
  rw [builds] at compiles
  simp only [Prod.mk.injEq] at facts
  obtain ⟨analyzed, plural, isValues, isWords⟩ := facts
  have lower : Text.lowercase "ΌΣΟΣ" = "όσος" ∧ Text.lowercase "İ" = "i̇" := by decide +kernel
  have recased : List.Forall₂ (Value.Recased c.isSingle) c.values values := by
    rw [isValues, plural]
    refine .cons (lower.1 ▸ .text _) (.cons (lower.2 ▸ .key rfl rfl rfl) (.cons (.same _) ?_))
    exact .cons (.same _) .nil
  obtain ⟨same, _, again⟩ := clause_recased analyzed recased (Stock.host []) .initial
  refine ⟨c, builds, analyzed, recased, same, compiles, again c _ analyzed ?_⟩
  rw [isWords]
  simp

end Criterion

end Criteria
