import Criteria.Proofs.Clause.ClosedForm
import Criteria.Proofs.Labels.Repetition

/-! # Queries for keys

What the text labeller asks an engine for, and what it gets.

* `Labels.queryFor` — the criterion that matches the documents of some keys;
* `Labels.askedItems`, `Labels.queryClause` — its clause, and what that asks for;
* `Labeller.Consults` — a labeller with an engine, and with texts for its two fields;
* `Labels.documents_of_unmarked` — one compilation, one search, and the documents that it gives.

A field for keys that is a text always makes a query, and its clause is a plain match unless some of
the keys are mappings that carry the mark of override values.
-/

namespace Criteria

open Entries Run

namespace Labels

/-! ## The query -/

/-- The criterion for some keys: everything but its name is left at its default, and the name may
be the one that makes a criterion single. -/
def queryFor (k : String) (keys : List Value) : Criterion where
  values := keys
  setting
    | .name => .str k
    | .single => .bool (k == keywordsName)
    | s => s.default

theorem read_markSingle_query (k : String) (keys : List Value) (s : Setting) :
    s.read (Config.markSingle [(.str Setting.name.key, .str k), (.str valuesKey, .list keys)])
      = .ok ((queryFor k keys).setting s) := by
  by_cases keywords : k = keywordsName
  · subst keywords
    cases s with
    | bound b => cases b <;> rfl
    | _ => rfl
  · have other : (k == keywordsName) = false := beq_false_of_ne keywords
    have unmarked : Config.markSingle
        [(.str Setting.name.key, .str k), (.str valuesKey, .list keys)]
          = [(.str Setting.name.key, .str k), (.str valuesKey, .list keys)] := by
      rw [Config.markSingle, if_neg]
      intro named
      cases named
      exact keywords rfl
    rw [unmarked]
    cases s with
    | bound b => cases b <;> rfl
    | single => rw [queryFor, other]; rfl
    | _ => rfl

theorem query_str (cs : Catalogs) (k : String) (keys : List Value) :
    query cs (.str k) keys = .ok (queryFor k keys) := by
  have valid : Config.Valid [(.str Setting.name.key, .str k), (.str valuesKey, .list keys)] := by
    refine Config.valid_of_holds ?_ (fun s v given => ?_) rfl
    · intro key member
      rcases List.mem_cons.1 member with rfl | member
      · exact .inr ⟨.name, rfl⟩
      · exact .inl (List.mem_singleton.1 member)
    · cases s with
      | name =>
        cases given
        exact .inr ⟨k, rfl⟩
      | bound b => cases b <;> cases given
      | _ => cases given
  obtain ⟨q, reads⟩ := Config.read_of_valid rfl valid
  rw [query_eq_read, reads]
  refine congrArg Except.ok (Criterion.ext (Criterion.values_of_read reads) (funext fun s => ?_))
  exact Except.ok.inj
    (((Config.read_eq_ok.1 reads).settings s).symm.trans (read_markSingle_query k keys s))

/-! ## Its clause -/

/-- What a query asks for: the keys as they are when the query is single, and otherwise with every
mapping among them replaced by its own key. -/
def askedItems (k : String) (keys : List Value) : List Value :=
  if k = keywordsName then keys else keys.map Value.entryKey

/-- The clause of a query without marked keys. -/
def queryClause (k : String) (keys : List Value) : Clause :=
  .matching .plain (.str k) (Value.collapse (askedItems k keys))

theorem isMarked_of_isMap {v : Value} (other : v.isMap = false) : v.isMarked = false := by
  cases v with
  | map es => cases other
  | _ => rfl

theorem entryKey_of_isMap {v : Value} (other : v.isMap = false) : v.entryKey = v := by
  cases v with
  | map es => cases other
  | _ => rfl

/-- Keys that are no mappings are asked for as they are. -/
theorem askedItems_of_isMap {keys : List Value} (others : ∀ key ∈ keys, key.isMap = false)
    (k : String) : askedItems k keys = keys := by
  unfold askedItems
  split
  · rfl
  · exact (List.map_congr_left fun key member => entryKey_of_isMap (others key member)).trans
      keys.map_id

theorem operand_queryFor (k : String) (keys : List Value) :
    (queryFor k keys).operand keys = Value.collapse (askedItems k keys) := by
  rw [Criterion.operand, askedItems]
  by_cases keywords : k = keywordsName
  · simp [Criterion.isSingle, Criterion.flag, queryFor, keywords, Setting.default]
  · simp [Criterion.isSingle, Criterion.flag, queryFor, keywords, Setting.default]

theorem clause_queryFor {k : String} {keys : List Value}
    (unmarked : ∀ key ∈ keys, key.isMarked = false) (host : Host) (cs : Catalogs) :
    (queryFor k keys).clause host cs = ⟨[.compiled (.str k)], .ok (queryClause k keys)⟩ := by
  have allOwn : (queryFor k keys).marked = [] := by
    rw [Criterion.marked, List.map_eq_nil_iff, List.filter_eq_nil_iff]
    intro key member
    simp [unmarked key member]
  have main : (queryFor k keys).mainClause = .ok (queryClause k keys) := by
    rw [Criterion.mainClause, Criterion.unmarked_of_marked allOwn]
    exact congrArg (fun v => Except.ok (Clause.matching .plain (.str k) v))
      (operand_queryFor k keys)
  rw [Criterion.clause_eq, main, allOwn]
  rfl

end Labels

/-! ## The documents -/

/-- A labeller with an engine, and with texts for the fields of keys and labels. -/
structure Labeller.Consults (l : Labeller) (engine keyField labelField : String) : Prop where
  engine : l.engine = .engine engine
  keyField : l.keyField = .str keyField
  labelField : l.labelField = .str labelField

namespace Labels

section

variable {l : Labeller} {engine k b : String} (consults : l.Consults engine k b)

include consults

theorem documents_of_clause {host : Host} {cs : Catalogs} {keys : List Value} {log : List Event}
    {clause : Clause} (compiles : (queryFor k keys).clause host cs = ⟨log, .ok clause⟩) :
    documents host cs l keys
      = ⟨log ++ [.searched engine clause], host.search engine clause⟩ := by
  have isKey : l.labelField.isKey = true := by rw [consults.labelField]; rfl
  rw [documents, consults.engine, consults.keyField, query_str, Run.ofExcept_ok_bind]
  simp only [Value.isNull, Bool.false_eq_true, ↓reduceIte, isKey, Bool.not_true, Bool.false_and]
  rw [Run.bind_of_ok (congrArg Run.outcome compiles), search, consults.engine, compiles]
  simp only [Run.bind_eq, Run.note_log, Run.note_outcome, Run.ofExcept_log, Run.ofExcept_outcome]
  cases host.search engine clause <;> simp

theorem documents_of_unmarked {keys : List Value} (unmarked : ∀ key ∈ keys, key.isMarked = false)
    (host : Host) (cs : Catalogs) :
    documents host cs l keys
      = ⟨[.compiled (.str k), .searched engine (queryClause k keys)],
          host.search engine (queryClause k keys)⟩ :=
  documents_of_clause consults (clause_queryFor unmarked host cs)

/-- With marked keys or without, the documents are what the engine gives for some clause. -/
theorem outcome_documents (host : Host) (cs : Catalogs) (keys : List Value) :
    ∃ clause, (documents host cs l keys).outcome = host.search engine clause := by
  obtain ⟨clause, compiles⟩ := query_compiles (query_str cs k keys) host
  exact ⟨clause, congrArg Run.outcome (documents_of_clause consults (congrArg (Run.mk _) compiles))⟩

end

end Labels

namespace Criterion

theorem exists_labeller {α β : Type} {host : Host} {cs : Catalogs}
    {build : Except Fault Criterion} {f : Criterion → α} {g : Labeller → β} {a : α} {b : β}
    (made : build.map f = .ok a)
    (labellers : (build.bind fun c => (c.labeller host cs).outcome.map g) = .ok b) :
    ∃ c l, build = .ok c ∧ f c = a ∧ (c.labeller host cs).outcome = .ok l ∧ g l = b := by
  obtain ⟨c, builds, facts⟩ := Outcome.map_eq_ok.1 made
  rw [builds] at labellers
  obtain ⟨l, isLabeller, fields⟩ := Outcome.map_eq_ok.1 labellers
  exact ⟨c, l, builds, facts, isLabeller, fields⟩

/-- The text labeller of a criterion reads fields by their names and searches with the engine that
the criterion has. -/
theorem consults_of_labeller {host : Host} {cs : Catalogs} {c : Criterion} {l : Labeller}
    {engine : String} (made : (c.labeller host cs).outcome = .ok l) (text : l.kind = .text)
    (isEngine : c.setting .engine = .engine engine) :
    ∃ k b, l.Consults engine k b ∧ l.criterion = c.name := by
  obtain ⟨o, _, isMade⟩ := labeller_eq_ok made
  rw [isMade, text] at made
  change Labeller.ofArguments .text (c.labellerArguments o) = .ok l at made
  unfold Labeller.ofArguments at made
  split at made
  · cases made
  · cases made
    obtain ⟨key, label, labeller⟩ := o
    -- the fields are among the arguments if the options give them
    refine ⟨key.getD Labels.defaultKeyField, label.getD Labels.labelName, ⟨?_, ?_, ?_⟩, ?_⟩ <;>
      cases key <;> cases label <;>
      simp [labellerArguments, Labels.Options.arguments, get?_cons, Entries.get, isEngine]

end Criterion

end Criteria
