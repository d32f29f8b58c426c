import Criteria.Proofs.Clause.Outcome
import Criteria.Proofs.Criterion.Evolution
import Criteria.Stock.Host
import Mathlib.Data.List.Forall2

/-! # What a clause tells of its kind

A search engine is given a mapping, and what it can tell about a clause it has to read off that.

* `Clause.Kind`, `Clause.kind`, `Criterion.kind` — the kinds of clauses, and which one is compiled;
* `Value.kind` — the kind that a mapping shows;
* `Value.Equal` — mappings that are the same to whoever reads them;
* `Clause.Misleads` — a plain match whose operand shows another kind.

Operands stand in a clause as they are, so one that looks like the inside of another clause makes
the match look like that clause.  That is the only way in which two kinds can be confused
(`kinds_of_equal_clauses`), and it does happen (`match_shown_as_exclusion`).
-/

namespace Criteria

/-! ## Kinds -/

/-- A kind of clause. -/
inductive Clause.Kind where
  | matching (form : Form)
  | range
  | either
deriving DecidableEq, Repr

def Clause.kind : Clause → Clause.Kind
  | .matching form _ _ => .matching form
  | .range _ _ => .range
  | .either _ _ => .either

/-- The kind of clause that a criterion is compiled to. -/
def Criterion.kind (c : Criterion) : Clause.Kind :=
  if c.isRange then .range else if c.marked = [] then .matching c.form else .either

namespace Value

/-! ## Equality to a reader -/

/-- Values that a reader takes for the same: keys by the form in which they are compared, sequences
item by item, and mappings whatever the order of their entries. -/
inductive Equal : Value → Value → Prop where
  | same (v : Value) : Equal v v
  | key {v w : Value} (isKey : v.isKey = true) (isKey' : w.isKey = true)
      (forms : v.keyForm = w.keyForm) : Equal v w
  | list {vs ws : List Value} (items : List.Forall₂ Equal vs ws) : Equal (.list vs) (.list ws)
  | tuple {vs ws : List Value} (items : List.Forall₂ Equal vs ws) : Equal (.tuple vs) (.tuple ws)
  | map {es fs fs' : Entries} (order : fs'.Perm fs)
      (keys : es.map (·.1.keyForm) = fs'.map (·.1.keyForm))
      (values : List.Forall₂ Equal (es.map (·.2)) (fs'.map (·.2))) : Equal (.map es) (.map fs)

/-! ## The kind that a value shows -/

/-- Whether the form of a key is an operator that states an end of a range. -/
def isOperator (form : Value) : Bool :=
  Bound.all.any fun b => decide (form = .str b.operator)

/-- Whether some entries could be the ends of a range. -/
def areEnds (es : Entries) : Bool :=
  (es.map (·.1.keyForm)).all isOperator && (es.map (·.2)).all fun v => !v.isNull

/-- The kind that an operand shows by itself. -/
def operandKind : Value → Clause.Kind
  | .map es =>
    if es.map (·.1.keyForm) = [.str "all"] then .matching .all
    else if es.map (·.1.keyForm) = [.str "not"] then .matching .excluding
    else if areEnds es then .range
    else .matching .plain
  | _ => .matching .plain

/-- The entry of a mapping that has just one. -/
def onlyEntry? : Value → Option (Value × Value)
  | .map [e] => some e
  | _ => none

def isText : Value → Bool
  | .str _ => true
  | _ => false

/-- Whether a value could be a clause: a mapping with a single field. -/
def isNode (v : Value) : Bool :=
  v.onlyEntry?.any fun e => e.1.keyForm.isText

/-- Whether a value could be a choice between two clauses. -/
def isChoice : Value → Bool
  | .list [main, override] => main.isNode && override.isNode
  | _ => false

/-- The kind that the mapping of a clause shows. -/
def kind (v : Value) : Clause.Kind :=
  match v.onlyEntry? with
  | some (field, operand) =>
    if field.keyForm = .str "or" ∧ operand.isChoice = true then .either else operand.operandKind
  | none => .matching .plain

/-! ## Equal values show the same kind -/

theorem shows_nothing_of_isKey {v : Value} (isKey : v.isKey = true) :
    v.operandKind = .matching .plain ∧ v.onlyEntry? = none ∧ v.isChoice = false := by
  cases v with
  | list items | map entries => cases isKey
  | _ => exact ⟨rfl, rfl, rfl⟩

theorem keyForm_eq_null {v : Value} : v.keyForm = .null ↔ v = .null := by
  cases v with
  | float x =>
    simp only [keyForm]
    split <;> simp
  | _ => simp [keyForm]

namespace Equal

variable {v w : Value} {es fs : Entries}

theorem isNull (equal : Equal v w) : v.isNull = w.isNull := by
  cases equal with
  | same v => rfl
  | key isKey isKey' forms =>
    rw [Bool.eq_iff_iff, isNull_eq_true, isNull_eq_true, ← @keyForm_eq_null v, forms,
      keyForm_eq_null]
  | list items | tuple items | map order keys values => rfl

theorem all_isNull {vs ws : List Value} (equal : List.Forall₂ Equal vs ws) :
    (vs.all fun v => !v.isNull) = ws.all fun w => !w.isNull := by
  induction equal with
  | nil => rfl
  | cons first rest inductionHypothesis =>
    rw [List.all_cons, List.all_cons, first.isNull, inductionHypothesis]

/-- Equal mappings have the same keys, in some order. -/
theorem keyForms (equal : Equal (.map es) (.map fs)) :
    (es.map (·.1.keyForm)).Perm (fs.map (·.1.keyForm)) := by
  cases equal with
  | same v => exact .refl _
  | key isKey isKey' forms => cases isKey
  | map order keys values =>
    rw [keys]
    exact order.map _

theorem areEnds (equal : Equal (.map es) (.map fs)) : areEnds es = areEnds fs := by
  rw [Value.areEnds, Value.areEnds, equal.keyForms.all_eq]
  congr 1
  cases equal with
  | same v => rfl
  | key isKey isKey' forms => cases isKey
  | map order keys values => rw [← (order.map (·.2)).all_eq, all_isNull values]

theorem operandKind (equal : Equal v w) : v.operandKind = w.operandKind := by
  cases equal with
  | same v => rfl
  | key isKey isKey' forms =>
    rw [(shows_nothing_of_isKey isKey).1, (shows_nothing_of_isKey isKey').1]
  | list items | tuple items => rfl
  | @map es fs fs' order keys values =>
    have equal : Equal (.map es) (.map fs) := .map order keys values
    have only (form : Value) :
        es.map (·.1.keyForm) = [form] ↔ fs.map (·.1.keyForm) = [form] := by
      rw [← List.perm_singleton, ← List.perm_singleton]
      exact ⟨equal.keyForms.symm.trans, equal.keyForms.trans⟩
    simp only [Value.operandKind, only, equal.areEnds]

/-- The only entries of equal values are equal, and one has an only entry when the other does. -/
theorem onlyEntry? (equal : Equal v w) :
    (v.onlyEntry? = none ∧ w.onlyEntry? = none) ∨
      ∃ e f, v.onlyEntry? = some e ∧ w.onlyEntry? = some f ∧
        e.1.keyForm = f.1.keyForm ∧ Equal e.2 f.2 := by
  cases equal with
  | same v =>
    cases only : v.onlyEntry? with
    | none => exact .inl ⟨rfl, rfl⟩
    | some e => exact .inr ⟨e, e, rfl, rfl, rfl, .same _⟩
  | key isKey isKey' forms =>
    exact .inl ⟨(shows_nothing_of_isKey isKey).2.1, (shows_nothing_of_isKey isKey').2.1⟩
  | list items | tuple items => exact .inl ⟨rfl, rfl⟩
  | @map es fs fs' order keys values =>
    -- the order matters only for several entries, and those have no only one
    match es, fs', keys, values with
    | [], [], _, _ =>
      rw [List.nil_perm.1 order]
      exact .inl ⟨rfl, rfl⟩
    | [e], [f], keys, .cons value _ =>
      rw [← List.singleton_perm.1 order]
      exact .inr ⟨e, f, rfl, rfl, (List.cons.inj keys).1, value⟩
    | _ :: _ :: _, _ :: _ :: _, _, _ =>
      refine .inl ⟨rfl, ?_⟩
      match fs, order.length_eq with
      | _ :: _ :: _, _ => rfl

theorem isNode (equal : Equal v w) : v.isNode = w.isNode := by
  unfold Value.isNode
  rcases equal.onlyEntry? with ⟨none, none'⟩ | ⟨e, f, only, only', forms, _⟩
  · rw [none, none']
  · rw [only, only', Option.any_some, Option.any_some, forms]

theorem isChoice (equal : Equal v w) : v.isChoice = w.isChoice := by
  cases equal with
  | same v => rfl
  | key isKey isKey' forms =>
    rw [(shows_nothing_of_isKey isKey).2.2, (shows_nothing_of_isKey isKey').2.2]
  | list items =>
    match items with
    | .nil => rfl
    | .cons _ .nil => rfl
    | .cons main (.cons override .nil) =>
      rw [Value.isChoice, Value.isChoice, main.isNode, override.isNode]
    | .cons _ (.cons _ (.cons _ _)) => rfl
  | tuple items | map order keys values => rfl

theorem kind (equal : Equal v w) : v.kind = w.kind := by
  unfold Value.kind
  rcases equal.onlyEntry? with ⟨none, none'⟩ | ⟨e, f, only, only', forms, operands⟩
  · rw [none, none']
  · simp only [only, only', forms, operands.isChoice, operands.operandKind]

end Equal

end Value

/-! ## The kind that a clause shows -/

namespace Clause

/-- A plain match whose operand looks like the inside of a clause of another kind. -/
def Misleads (clause : Clause) : Prop :=
  ∃ field operand, clause = .matching .plain field operand ∧
    ((field = .str "or" ∧ operand.isChoice = true) ∨ operand.operandKind ≠ .matching .plain)

/-- A clause whose fields are texts and whose ranges have ends that are given. -/
def IsProper : Clause → Prop
  | .matching _ field _ => ∃ f, field = .str f
  | .range field bounds => (∃ f, field = .str f) ∧ ∀ b ∈ bounds, b.2.isPresent = true
  | .either main override => main.IsProper ∧ override.IsProper

theorem Misleads.kind {clause : Clause} (misleads : clause.Misleads) :
    clause.kind = .matching .plain := by
  obtain ⟨field, operand, rfl, _⟩ := misleads
  rfl

theorem IsProper.isNode {clause : Clause} (proper : clause.IsProper) :
    clause.toValue.isNode = true := by
  cases clause with
  | matching form field operand =>
    obtain ⟨f, rfl⟩ := proper
    cases form <;> rfl
  | range field bounds =>
    obtain ⟨⟨f, rfl⟩, _⟩ := proper
    rfl
  | either main override => rfl

theorem kind_entry (f : String) (operand : Value) :
    (entry (.str f) operand).kind =
      if Value.str f = .str "or" ∧ operand.isChoice = true then .either else operand.operandKind :=
  rfl

theorem kind_entry_map (f : String) (es : Entries) :
    (entry (.str f) (.map es)).kind = Value.operandKind (.map es) :=
  if_neg fun both => Bool.false_ne_true both.2

theorem operandKind_boundsValue {bounds : List (Bound × Value)}
    (present : ∀ b ∈ bounds, b.2.isPresent = true) :
    (boundsValue bounds).operandKind = .range := by
  have other (k : String) (differs : ∀ b : Bound, b.operator ≠ k) :
      (bounds.map fun b => (Value.str b.1.operator, b.2)).map (·.1.keyForm) ≠ [.str k] := by
    intro same
    obtain ⟨b, rfl, isKey⟩ := List.map_eq_singleton_iff.1 (List.map_map.symm.trans same)
    exact differs b.1 (Value.str.inj isKey)
  have ends : Value.areEnds (bounds.map fun b => (Value.str b.1.operator, b.2)) = true := by
    rw [Value.areEnds, Bool.and_eq_true, List.all_map, List.all_map, List.all_map, List.all_map,
      List.all_eq_true, List.all_eq_true]
    refine ⟨fun b _ => ?_, fun b member => ?_⟩
    · exact List.any_eq_true.2 ⟨b.1, b.1.mem_all, decide_eq_true rfl⟩
    · have given := present b member
      cases isValue : b.2 with
      | null => rw [isValue] at given; cases given
      | _ => simp [isValue, Value.isNull]
  rw [boundsValue, Value.operandKind, if_neg (other "all" fun b => by cases b <;> decide),
    if_neg (other "not" fun b => by cases b <;> decide), if_pos ends]

/-- A clause shows its own kind, unless it is a plain match that misleads. -/
theorem IsProper.kind_toValue {clause : Clause} (proper : clause.IsProper) :
    clause.Misleads ∨ clause.toValue.kind = clause.kind := by
  cases clause with
  | matching form field operand =>
    obtain ⟨f, rfl⟩ := proper
    cases form with
    | plain =>
      rw [Classical.or_iff_not_imp_left]
      intro honest
      have noChoice : ¬(Value.str f = .str "or" ∧ operand.isChoice = true) :=
        fun choice => honest ⟨_, _, rfl, .inl choice⟩
      rw [toValue, kind_entry, if_neg noChoice]
      exact Classical.byContradiction fun other => honest ⟨_, _, rfl, .inr other⟩
    | all | excluding => exact .inr (kind_entry_map f _)
  | range field bounds =>
    obtain ⟨⟨f, rfl⟩, present⟩ := proper
    exact .inr ((kind_entry_map f _).trans (operandKind_boundsValue present))
  | either main override =>
    obtain ⟨mainProper, overrideProper⟩ := proper
    have choice : (Value.list [main.toValue, override.toValue]).isChoice = true := by
      rw [Value.isChoice, mainProper.isNode, overrideProper.isNode]
      rfl
    exact .inr (if_pos ⟨rfl, choice⟩)

end Clause

/-! ## The kind that is compiled -/

namespace Criterion

variable {host : Host} {cs : Catalogs} {c : Criterion} {clause : Clause}

theorem Typed.rangeClause_cases (typed : c.Typed)
    (made : (c.rangeClause host).outcome = .ok clause) :
    ∃ bounds, clause = .range c.target bounds ∧ ∀ b ∈ bounds, b.2.isPresent = true := by
  rw [outcome_rangeClause typed] at made
  obtain ⟨bounds, done, rfl⟩ := Outcome.map_eq_ok.1 made
  obtain ⟨t, holds⟩ := typed.transform
  refine ⟨bounds, rfl, fun b member => ?_⟩
  rw [transformBounds_eq_ok holds done] at member
  obtain ⟨raw, _, transformed⟩ := List.mem_filterMap.1 member
  simp only [transformedBound] at transformed
  split at transformed
  · split at transformed
    · cases transformed
      assumption
    · cases transformed
  · cases transformed

theorem Typed.kind_clause (typed : c.Typed) (compiled : (c.clause host cs).outcome = .ok clause) :
    clause.kind = c.kind := by
  unfold Criterion.kind
  rcases typed.clause_cases compiled with
    ⟨ranged, made⟩ | ⟨plain, allOwn, rfl⟩ | ⟨plain, marked, o, inner, _, _, rfl⟩
  · obtain ⟨bounds, rfl, _⟩ := typed.rangeClause_cases made
    rw [if_pos ranged]
    rfl
  · rw [plain, if_neg nofun, if_pos allOwn]
    rfl
  · rw [plain, if_neg nofun, if_neg marked]
    rfl

theorem Typed.proper_clause (typed : c.Typed)
    (compiled : (c.clause host cs).outcome = .ok clause) : clause.IsProper := by
  -- an override criterion has fewer marked values than its parent, namely none
  induction marks : c.marked.length using Nat.strong_induction_on generalizing c clause with
  | _ n inductionHypothesis =>
    rcases typed.clause_cases compiled with
      ⟨ranged, made⟩ | ⟨plain, allOwn, rfl⟩ | ⟨plain, marked, o, inner, made, nested, rfl⟩
    · obtain ⟨bounds, rfl, present⟩ := typed.rangeClause_cases made
      exact ⟨typed.target, present⟩
    · exact typed.target
    · have overrideTyped := (Constructed.nested made).typed
      refine ⟨typed.target, inductionHypothesis o.marked.length ?_ overrideTyped nested rfl⟩
      rw [marked_override made, ← marks]
      exact List.length_pos_iff.2 marked

/-- What the clauses of two criteria tell: each shows its kind or misleads, and when the clauses are
equal to a reader, the kinds are the same unless one of the clauses misleads, which is then a plain
match and shows the kind of the other one. -/
theorem kinds_of_equal_clauses {c c' : Criterion} (evolved : c.Evolved) (evolved' : c'.Evolved)
    {host host' : Host} {cs cs' : Catalogs} {clause clause' : Clause}
    (compiled : (c.clause host cs).outcome = .ok clause)
    (compiled' : (c'.clause host' cs').outcome = .ok clause')
    (equal : clause.toValue.Equal clause'.toValue) :
    (clause.Misleads ∨ clause.toValue.kind = c.kind) ∧
      (clause'.Misleads ∨ clause'.toValue.kind = c'.kind) ∧
      (c.kind = c'.kind ∨
        (clause.Misleads ∧ c.kind = .matching .plain ∧ c'.kind = clause.toValue.kind) ∨
        (clause'.Misleads ∧ c'.kind = .matching .plain ∧ c.kind = clause'.toValue.kind)) := by
  have kind := evolved.typed.kind_clause compiled
  have kind' := evolved'.typed.kind_clause compiled'
  have shows := (evolved.typed.proper_clause compiled).kind_toValue
  have shows' := (evolved'.typed.proper_clause compiled').kind_toValue
  rw [kind] at shows
  rw [kind'] at shows'
  refine ⟨shows, shows', ?_⟩
  -- a reader of equal clauses is shown the same kind twice
  have same := equal.kind
  rcases shows with misleads | shown
  · have plain : c.kind = .matching .plain := kind.symm.trans misleads.kind
    rcases shows' with misleads' | shown'
    · exact .inl (plain.trans (misleads'.kind.symm.trans kind'))
    · exact .inr (.inl ⟨misleads, plain, shown'.symm.trans same.symm⟩)
  · rcases shows' with misleads' | shown'
    · exact .inr (.inr ⟨misleads', kind'.symm.trans misleads'.kind, shown.symm.trans same⟩)
    · exact .inl (shown.symm.trans (same.trans shown'))

theorem kinds_of_equal_clauses_of_exclusions :
    ∃ (c c' : Criterion) (clause clause' : Clause), c.Evolved ∧ c'.Evolved ∧
      (c.clause (Stock.host []) .initial).outcome = .ok clause ∧
      (c'.clause (Stock.host []) .initial).outcome = .ok clause' ∧
      clause.toValue = .map [("a", .map [("not", .int 1)])] ∧
      clause'.toValue = .map [("a", .map [("not", .bool true)])] ∧
      clause.toValue.Equal clause'.toValue ∧
      (c.kind = c'.kind ∨
        (clause.Misleads ∧ c.kind = .matching .plain ∧ c'.kind = clause.toValue.kind) ∨
        (clause'.Misleads ∧ c'.kind = .matching .plain ∧ c.kind = clause'.toValue.kind)) := by
  let config : Value := .map [("name", "a"), ("not", .bool true), ("values", .int 1)]
  let plain : Value := .map [("name", "a")]
  have made : ((Construction.ofConfig config).build .initial).bind (fun c =>
      (c.clause (Stock.host []) .initial).outcome) = .ok (.matching .excluding "a" (.int 1)) := by
    decide +kernel
  have made' : ((Construction.ofConfig plain).build .initial).bind (fun c =>
      ((c.change (.edit (.noneOf (.bool true)))).clause (Stock.host []) .initial).outcome)
        = .ok (.matching .excluding "a" (.bool true)) := by
    decide +kernel
  obtain ⟨c, builds, compiled⟩ := Outcome.bind_eq_ok.1 made
  obtain ⟨c₀, builds', compiled'⟩ := Outcome.bind_eq_ok.1 made'
  have evolved : c.Evolved := .of_constructed (.built builds)
  have evolved' : (c₀.change (.edit (.noneOf (.bool true)))).Evolved :=
    Evolved.change (.of_constructed (.built builds')) _
  have operands : Value.Equal (.map [("not", .int 1)]) (.map [("not", .bool true)]) :=
    .map (.refl _) rfl (.cons (.key rfl rfl rfl) .nil)
  have equal : Value.Equal (.map [("a", .map [("not", .int 1)])])
      (.map [("a", .map [("not", .bool true)])]) :=
    .map (.refl _) rfl (.cons operands .nil)
  exact ⟨c, _, _, _, evolved, evolved', compiled, compiled', rfl, rfl, equal,
    (kinds_of_equal_clauses evolved evolved' compiled compiled' equal).2.2⟩

/-- An exclusion of a value and a plain match with a mapping that names the exclusion compile to one
and the same clause. -/
theorem match_shown_as_exclusion :
    ∃ (c c' : Criterion) (clause clause' : Clause),
      (Construction.ofConfig (.map [("name", "a"), ("not", .bool true),
        ("values", "x")])).build .initial = .ok c ∧
      (Construction.ofConfig (.map [("name", "a"), ("single", .bool true),
        ("values", .map [("not", "x")])])).build .initial = .ok c' ∧
      (c.clause (Stock.host []) .initial).outcome = .ok clause ∧
      (c'.clause (Stock.host []) .initial).outcome = .ok clause' ∧
      clause.toValue = clause'.toValue ∧
      c.kind = .matching .excluding ∧ c'.kind = .matching .plain := by
  have made : ((Construction.ofConfig (.map [("name", "a"), ("not", .bool true),
      ("values", "x")])).build .initial).map (fun c =>
        ((c.clause (Stock.host []) .initial).outcome, c.kind))
      = .ok (.ok (.matching .excluding "a" "x"), .matching .excluding) := by
    decide +kernel
  have made' : ((Construction.ofConfig (.map [("name", "a"), ("single", .bool true),
      ("values", .map [("not", "x")])])).build .initial).map (fun c =>
        ((c.clause (Stock.host []) .initial).outcome, c.kind))
      = .ok (.ok (.matching .plain "a" (.map [("not", "x")])), .matching .plain) := by
    decide +kernel
  obtain ⟨c, builds, facts⟩ := Outcome.map_eq_ok.1 made
  obtain ⟨c', builds', facts'⟩ := Outcome.map_eq_ok.1 made'
  obtain ⟨compiled, kind⟩ := Prod.mk.inj facts
  obtain ⟨compiled', kind'⟩ := Prod.mk.inj facts'
  exact ⟨c, c', _, _, builds, builds', compiled, compiled', rfl, kind, kind'⟩

end Criterion

end Criteria
