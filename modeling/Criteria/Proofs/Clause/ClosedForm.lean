import Criteria.Proofs.Clause.Outcome
import Criteria.Proofs.Criterion.Evolution
import Criteria.Stock.Host

/-! # The closed form of a clause

The mapping that a criterion compiles to, written down from its settings and values without any
compilation.

* `ClosedForm.field`, `ClosedForm.bounds`, `ClosedForm.operand` — the parts of a clause;
* `ClosedForm.flat` — the clause of a criterion whose values all count as its own;
* `ClosedForm.clause` — the clause of any criterion.

The override criterion for marked values enters by the settings that its configuration describes.
Its values have lost their marks and are still without them when its configuration has been read,
so it has no override clause of its own: the form does not refer to itself.
-/

namespace Criteria

namespace ClosedForm

/-! ## The field -/

def text : Value → String
  | .str s => s
  | _ => ""

/-- The suffix of the first variant that is set. -/
def suffix (c : Criterion) : String :=
  if c.setting .leading = .bool true then ".text_start"
  else if c.setting .anywhere = .bool true then ".text_middle"
  else if c.setting .analyzed = .bool true then ".analyzed"
  else if c.setting .completing = .bool true then ".autocomplete"
  else ""

/-- The field that is set, or the name when none is set or it is empty, with its suffix. -/
def field (c : Criterion) : Value :=
  let base :=
    if text (c.setting .field) = "" then text (c.setting .name) else text (c.setting .field)
  .str (base ++ suffix c)

/-! ## The ends of a range -/

def transform (c : Criterion) : Transform :=
  match c.setting .transform with
  | .transform t => t
  | _ => .identity

/-- An end of a range as it comes out of the transform; nothing when it is not given before or
after. -/
def bound (host : Host) (c : Criterion) (b : Bound) : Option Value :=
  if c.setting (.bound b) = .null ∨ c.setting (.bound b) = .bool false then none
  else match host.apply (transform c) (c.setting (.bound b)) with
    | .ok v => if v = .null ∨ v = .bool false then none else some v
    | .error _ => none

def bounds (host : Host) (c : Criterion) : Entries :=
  [(Bound.atLeast, "gte"), (.above, "gt"), (.atMost, "lte"), (.below, "lt")].filterMap fun b =>
    (bound host c b.1).map fun v => (.str b.2, v)

/-! ## The operand -/

def key : Value → Value
  | .map es => (Entries.get? es "key").getD .null
  | v => v

def lowered : Value → Value
  | .str s => .str (Text.lowercase s)
  | v => v

/-- Some values as an operand: their keys unless the criterion is single, in lower case if it is
analysed, and a lone one on its own. -/
def operand (c : Criterion) (vs : List Value) : Value :=
  let keys := if c.setting .single = .bool true then vs else vs.map key
  let words := if c.setting .analyzed = .bool true then keys.map lowered else keys
  match words with
  | [v] => v
  | several => .list several

/-! ## Clauses -/

def entry (k v : Value) : Value := .map [(k, v)]

/-- The clause for some values: all of them, none of them, or any of them. -/
def main (c : Criterion) (vs : List Value) : Value :=
  if c.setting .combine = .bool true then
    entry (field c) (entry (.str "all") (operand c vs))
  else if c.setting .combine = .null ∧ c.setting .leading = .bool false
      ∧ c.setting .exclude = .bool true then
    entry (field c) (entry (.str "not") (operand c vs))
  else
    entry (field c) (operand c vs)

/-- The clause of a criterion whose values all count as its own. -/
def flat (host : Host) (c : Criterion) : Value :=
  if c.setting .range = .bool true then entry (field c) (.map (bounds host c)) else main c c.values

def isMarked : Value → Bool
  | .map es => ((Entries.get? es "user_query").getD .null).truthy
  | _ => false

def unmark : Value → Value
  | .map es => .map (Entries.erase es "user_query")
  | v => v

def spec (c : Criterion) : Entries :=
  match c.setting .override with
  | .map es => es
  | _ => []

/-- The criterion that the configuration of the override describes for some values. -/
def override (c : Criterion) (vs : List Value) : Criterion :=
  Config.contents (Config.markSingle (c.overrideConfig (spec c) (.list vs)))

/-- The clause of a criterion. -/
def clause (host : Host) (c : Criterion) : Value :=
  let marked := c.values.filter isMarked
  let own := c.values.filter fun v => !isMarked v
  if c.setting .range = .bool true then
    entry (field c) (.map (bounds host c))
  else if marked = [] then
    main c own
  else
    entry (.str "or") (.list [main c own, flat host (override c (marked.map unmark))])

end ClosedForm

/-! ## Compilation gives the closed form -/

theorem ClosedForm.entryKey_eq : Value.entryKey = key := by
  funext v
  cases v <;> rfl

theorem ClosedForm.lowered_eq : Value.lowered = lowered := by
  funext v
  cases v <;> rfl

theorem Criterion.decision_of_null {c : Criterion} {s : Setting} (undecided : c.setting s = .null) :
    c.decision s = none := by
  rw [decision, undecided]
  rfl

theorem Criterion.decision_of_bool {c : Criterion} {s : Setting} {b : Bool}
    (made : c.setting s = .bool b) : c.decision s = some b := by
  rw [decision, flag, made]
  rfl

theorem ClosedForm.isMarked_eq : Value.isMarked = isMarked := by
  funext v
  cases v <;> rfl

theorem ClosedForm.unmark_eq : Value.unmark = unmark := by
  funext v
  cases v <;> rfl

theorem Criterion.unmarked_eq (c : Criterion) :
    c.unmarked = c.values.filter fun v => !ClosedForm.isMarked v := by
  rw [unmarked, ClosedForm.isMarked_eq]

theorem Criterion.marked_eq (c : Criterion) :
    c.marked = (c.values.filter ClosedForm.isMarked).map ClosedForm.unmark := by
  rw [marked, ClosedForm.isMarked_eq, ClosedForm.unmark_eq]

theorem Criterion.unmarked_of_marked {c : Criterion} (allOwn : c.marked = []) :
    c.unmarked = c.values := by
  rw [marked, List.map_eq_nil_iff, List.filter_eq_nil_iff] at allOwn
  rw [unmarked, List.filter_eq_self]
  intro v member
  simp [allOwn v member]

theorem Criterion.boundsValue_eq {host : Host} {c : Criterion} {t : Transform}
    (holds : c.setting .transform = .transform t) :
    Clause.boundsValue (c.rawBounds.filterMap (transformedBound host t)) =
      .map (ClosedForm.bounds host c) := by
  have present (v : Value) : v.isPresent = true ↔ ¬(v = .null ∨ v = .bool false) := by
    rw [← Value.isPresent_eq_false, Bool.not_eq_false]
  -- both sides go through all ends in the order of clauses and leave some of them out
  unfold Clause.boundsValue rawBounds
  congr 1
  change _ = (Bound.all.map fun b => (b, b.operator)).filterMap _
  rw [List.map_filterMap, List.filterMap_filter, List.filterMap_map, List.filterMap_map]
  refine congrArg (fun f => Bound.all.filterMap f) (funext fun b => ?_)
  simp only [Function.comp, ClosedForm.bound, ClosedForm.transform, holds, transformedBound,
    present]
  by_cases absent : c.setting (.bound b) = .null ∨ c.setting (.bound b) = .bool false
  · rw [if_pos absent, if_neg (Classical.not_not.2 absent)]
    rfl
  · rw [if_neg absent, if_pos absent]
    cases host.apply t (c.setting (.bound b)) with
    | error fault => rfl
    | ok v =>
      by_cases absent : v = .null ∨ v = .bool false
      · simp [absent]
      · simp [absent]

namespace Criterion.Typed

variable {c : Criterion} (typed : c.Typed)

include typed

theorem flag_iff {s : Setting} (isFlag : s.shape = .flag) (needed : s.optional = false) :
    c.flag s = decide (c.setting s = .bool true) := by
  rcases typed s with ⟨optional, _⟩ | holds
  · rw [needed] at optional
    cases optional
  · rw [isFlag] at holds
    obtain ⟨b, isBool⟩ := holds
    rw [flag, isBool]
    cases b <;> rfl

theorem target_eq_field : c.target = ClosedForm.field c := by
  have base : c.baseField = .str (if ClosedForm.text (c.setting .field) = ""
      then ClosedForm.text (c.setting .name) else ClosedForm.text (c.setting .field)) := by
    obtain ⟨name, isName⟩ := typed.name
    unfold Criterion.baseField
    rcases typed.field with isNull | ⟨f, isText⟩
    · rw [flag, isNull, Criterion.name, isName]
      rfl
    · rw [flag, isText, Criterion.name, isName]
      by_cases empty : f = ""
      · simp [Value.truthy, ClosedForm.text, empty]
      · simp [Value.truthy, ClosedForm.text, empty]
  unfold Criterion.target Criterion.variant? ClosedForm.field ClosedForm.suffix
  simp only [Variant.all, List.find?_cons, List.find?_nil, Variant.setting, base, Value.text_str,
    typed.flag_iff (s := .leading) rfl rfl, typed.flag_iff (s := .anywhere) rfl rfl,
    typed.flag_iff (s := .analyzed) rfl rfl, typed.flag_iff (s := .completing) rfl rfl]
  -- the first variant that is set decides
  by_cases leading : c.setting .leading = .bool true
  · simp [leading, Variant.suffix]
  by_cases anywhere : c.setting .anywhere = .bool true
  · simp [leading, anywhere, Variant.suffix]
  by_cases analyzed : c.setting .analyzed = .bool true
  · simp [leading, anywhere, analyzed, Variant.suffix]
  by_cases completing : c.setting .completing = .bool true
  · simp [leading, anywhere, analyzed, completing, Variant.suffix]
  · simp [leading, anywhere, analyzed, completing]

theorem operand_eq (vs : List Value) : c.operand vs = ClosedForm.operand c vs := by
  unfold Criterion.operand ClosedForm.operand
  simp only [isSingle, typed.flag_iff (s := .single) rfl rfl,
    typed.flag_iff (s := .analyzed) rfl rfl, decide_eq_true_eq, ClosedForm.entryKey_eq,
    ClosedForm.lowered_eq]
  rfl

theorem toValue_matching (vs : List Value) :
    (Clause.matching c.form c.target (c.operand vs)).toValue = ClosedForm.main c vs := by
  rw [typed.target_eq_field, typed.operand_eq]
  unfold Criterion.form ClosedForm.main combination exclusion
  rcases typed.combine with undecided | ⟨b, decided⟩
  · rw [decision_of_null undecided, undecided]
    rcases typed .leading with ⟨⟨⟩, _⟩ | ⟨leading, isLeading⟩
    rcases typed.exclude with unasked | ⟨excluded, isExcluded⟩
    · rw [decision_of_null unasked, unasked, flag, isLeading]
      cases leading <;> rfl
    · rw [decision_of_bool isExcluded, isExcluded, flag, isLeading]
      cases leading <;> cases excluded <;> rfl
  · rw [decision_of_bool decided, decided]
    cases b <;> rfl

theorem toValue_rangeClause {host : Host} {clause : Clause}
    (made : (c.rangeClause host).outcome = .ok clause) :
    clause.toValue = ClosedForm.entry (ClosedForm.field c) (.map (ClosedForm.bounds host c)) := by
  rw [outcome_rangeClause typed] at made
  obtain ⟨bounds, done, rfl⟩ := Outcome.map_eq_ok.1 made
  obtain ⟨t, holds⟩ := typed.transform
  rw [transformBounds_eq_ok holds done, Clause.toValue, typed.target_eq_field, boundsValue_eq holds]
  rfl

theorem eq_override {cs : Catalogs} {o : Criterion} {vs : List Value}
    (made : c.override cs (.list vs) = .ok o) : o = ClosedForm.override c vs := by
  obtain ⟨spec, isSpec, accepted⟩ := override_eq_ok.1 made
  have same : spec = ClosedForm.spec c := by
    unfold ClosedForm.spec
    rcases typed.override with holds | ⟨spec', holds⟩
    · rw [overrideSpec_of_null holds] at isSpec
      rw [holds, ← Except.ok.inj isSpec]
    · rw [overrideSpec_of_map holds] at isSpec
      rw [holds, ← Except.ok.inj isSpec]
  rw [ClosedForm.override, ← same]
  exact (Config.read_eq_ok.1 (ofEntries_eq_ok.1 accepted).1).eq_contents

theorem toValue_cases {host : Host} {cs : Catalogs} {clause : Clause}
    (compiled : (c.clause host cs).outcome = .ok clause) :
    (c.setting .range = .bool true ∧
        clause.toValue =
          ClosedForm.entry (ClosedForm.field c) (.map (ClosedForm.bounds host c))) ∨
      (c.setting .range ≠ .bool true ∧ c.marked = [] ∧
        clause.toValue = ClosedForm.main c c.unmarked) ∨
      (c.setting .range ≠ .bool true ∧ c.marked ≠ [] ∧
        ∃ o inner, c.override cs (.list c.marked) = .ok o ∧ (o.clause host cs).outcome = .ok inner ∧
          clause.toValue = ClosedForm.entry (.str "or")
            (.list [ClosedForm.main c c.unmarked, inner.toValue])) := by
  have ranged_iff : c.setting .range = .bool true ↔ c.isRange = true := by
    rw [isRange, typed.flag_iff (s := .range) rfl rfl, decide_eq_true_iff]
  rw [Ne, ranged_iff, Bool.not_eq_true, ← typed.toValue_matching]
  rcases typed.clause_cases compiled with
    ⟨ranged, made⟩ | ⟨plain, allOwn, rfl⟩ | ⟨plain, marked, o, inner, made, nested, rfl⟩
  · exact .inl ⟨ranged, typed.toValue_rangeClause made⟩
  · exact .inr (.inl ⟨plain, allOwn, rfl⟩)
  · exact .inr (.inr ⟨plain, marked, o, inner, made, nested, rfl⟩)

theorem toValue_eq_flat {host : Host} {cs : Catalogs} {clause : Clause} (allOwn : c.marked = [])
    (compiled : (c.clause host cs).outcome = .ok clause) :
    clause.toValue = ClosedForm.flat host c := by
  unfold ClosedForm.flat
  rcases typed.toValue_cases compiled with
    ⟨ranged, isClause⟩ | ⟨ranged, _, isClause⟩ | ⟨_, marked, _⟩
  · rw [if_pos ranged, isClause]
  · rw [if_neg ranged, isClause, unmarked_of_marked allOwn]
  · exact absurd allOwn marked

theorem toValue_eq_clause {host : Host} {cs : Catalogs} {clause : Clause}
    (compiled : (c.clause host cs).outcome = .ok clause) :
    clause.toValue = ClosedForm.clause host c := by
  have noneMarked : c.values.filter ClosedForm.isMarked = [] ↔ c.marked = [] := by
    rw [marked_eq, List.map_eq_nil_iff]
  unfold ClosedForm.clause
  simp only [noneMarked, ← unmarked_eq, ← marked_eq]
  rcases typed.toValue_cases compiled with
    ⟨ranged, isClause⟩ | ⟨ranged, allOwn, isClause⟩ |
    ⟨ranged, marked, o, inner, made, compiled, isClause⟩
  · rw [if_pos ranged, isClause]
  · rw [if_neg ranged, if_pos allOwn, isClause]
  · -- the override criterion has no marked values left, so its clause is a flat one
    have overrideTyped := (Constructed.nested made).typed
    rw [if_neg ranged, if_neg marked, isClause, ← typed.eq_override made,
      overrideTyped.toValue_eq_flat (marked_override made) compiled]

end Criterion.Typed

/-- The clause of a criterion, however it came to be and was changed, is the one of the closed
form. -/
theorem Criterion.toValue_clause {cs₀ cs : Catalogs} {c₀ : Criterion}
    (constructed : Constructed cs₀ c₀) (changes : List Change) {host : Host} {clause : Clause}
    (compiled : ((c₀.changeAll changes).clause host cs).outcome = .ok clause) :
    clause.toValue = ClosedForm.clause host (c₀.changeAll changes) :=
  (constructed.typed.changeAll changes).toValue_eq_clause compiled

theorem Criterion.toValue_clause_of_marked :
    ∃ c changes clause, Constructed .initial c ∧
      ((c.changeAll changes).clause (Stock.host []) .initial).outcome = .ok clause ∧
      clause = .either (.matching .plain "title.analyzed" "a") (.matching .plain "all" "B") ∧
      clause.toValue = ClosedForm.clause (Stock.host []) (c.changeAll changes) := by
  let config : Value := .map [("name", "title"), ("user_query", .map [("query_name", "all")])]
  let values : Value := .list [.map [("key", "A")], .map [("key", "B"), ("user_query", .bool true)]]
  let changes : List Change := [.edit (.variant .analyzed values)]
  have made : ((Construction.ofConfig config).build .initial).bind (fun c =>
      ((c.changeAll changes).clause (Stock.host []) .initial).outcome)
        = .ok (.either (.matching .plain "title.analyzed" "a") (.matching .plain "all" "B")) := by
    decide +kernel
  obtain ⟨c, builds, compiled⟩ := Outcome.bind_eq_ok.1 made
  have constructed : Constructed .initial c := .built builds
  exact ⟨c, changes, _, constructed, compiled, rfl, toValue_clause constructed changes compiled⟩

end Criteria
