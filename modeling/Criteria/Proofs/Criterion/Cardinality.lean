import Criteria.Proofs.Clause.Transforms
import Criteria.Proofs.Criterion.LastWrites
import Criteria.Proofs.Criterion.Rebuilding
import Criteria.Proofs.Labels.Atomicity

/-! # The number of values

A criterion has as many values as were given for it last, unless a labeller of the host adds to them
or takes some away while it has them in its hands.

* `Criterion.ConstructedWith` — a criterion and what it was given for its values;
* `Change.given?`, `Change.lastGiven` — what changes give for the values;
* `Change.LeavesCount` — changes that leave as many values as they give, or as there are;
* `Criterion.length_values_changeAll` — the number of values after some changes;
* `Criterion.values_reported` — the values that a single criterion reports and those it matches.

Being single decides how values are reported and matched, and not how many there are: neither a
construction nor a change looks at it when values are given.  A single criterion reports its first
value, so it reports all of them only if it was given no more than one.
-/

namespace Criteria

/-! ## What is given -/

/-- A criterion constructed with some catalogs, from something that was given for its values. -/
inductive Criterion.ConstructedWith (cs : Catalogs) : Value → Criterion → Prop where
  | built {k : Construction} {es : Entries} {given : Value} {c : Criterion}
      (config : k.config = .ok (.map es)) (isGiven : Entries.get es valuesKey = given)
      (builds : k.build cs = .ok c) : ConstructedWith cs given c
  | nested {c o : Criterion} {values : Value} (made : c.override cs values = .ok o) :
      ConstructedWith cs values o

/-- Whatever was constructed was given something for its values, be it null. -/
theorem Constructed.exists_given {cs : Catalogs} {c : Criterion} (constructed : Constructed cs c) :
    ∃ given, Criterion.ConstructedWith cs given c := by
  cases constructed with
  | built builds =>
    obtain ⟨config, isConfig, accepted⟩ := Outcome.bind_eq_ok.1 builds
    cases config with
    | map es => exact ⟨_, .built isConfig rfl builds⟩
    | _ => cases accepted
  | nested made => exact ⟨_, .nested made⟩

namespace Change

/-- What a change gives for the values. -/
def given? : Change → Option Value
  | .edit e => e.values?
  | .setValues v => some v
  | .label _ _ => none

/-- A change whose labeller, if it has one, leaves as many values as it is handed.  Which labeller
that is does not change with the criterion. -/
def LeavesCount (c : Criterion) : Change → Prop
  | .label host cs =>
    ∀ l, (c.labeller host cs).outcome = .ok l → l.IsCustom → l.LeavesCount host cs
  | .edit _ | .setValues _ => True

theorem LeavesCount.change {c : Criterion} {change : Change} (leaves : change.LeavesCount c)
    (change' : Change) : change.LeavesCount (c.change change') := by
  cases change with
  | label host cs =>
    intro l made
    rw [Criterion.labeller_change] at made
    exact leaves l made
  | edit _ | setValues _ => trivial

/-- What is given for the values last, by some changes or else before them. -/
def lastGiven (given : Value) (changes : List Change) : Value :=
  ((changes.filterMap given?).getLast?).getD given

theorem lastGiven_cons (given : Value) (change : Change) (changes : List Change) :
    lastGiven given (change :: changes) = lastGiven (change.given?.getD given) changes := by
  unfold lastGiven
  cases isGiven : change.given? with
  | none => rw [List.filterMap_cons, isGiven]; rfl
  | some v =>
    rw [List.filterMap_cons, isGiven, List.getLast?_cons]
    rfl

end Change

namespace Criterion

theorem ConstructedWith.constructed {cs : Catalogs} {given : Value} {c : Criterion}
    (constructed : ConstructedWith cs given c) : Constructed cs c := by
  cases constructed with
  | built _ _ builds => exact .built builds
  | nested made => exact .nested made

theorem ConstructedWith.values {cs : Catalogs} {given : Value} {c : Criterion}
    (constructed : ConstructedWith cs given c) : c.values = given.items := by
  cases constructed with
  | built config isGiven builds =>
    obtain ⟨_, isConfig, accepted⟩ := Outcome.bind_eq_ok.1 builds
    cases config.symm.trans isConfig
    rw [← isGiven]
    exact values_of_read (ofEntries_eq_ok.1 accepted).1
  | nested made => exact values_override made

/-! ## The number of values -/

/-- After a change there are as many values as it gives, or as before if it gives none. -/
theorem length_values_change {c : Criterion} {change : Change} (leaves : change.LeavesCount c) :
    (c.change change).values.length =
      ((change.given?.map Value.items).getD c.values).length := by
  cases change with
  | edit e =>
    rw [Criterion.change, edit, values_writeAll, Edit.filterMap_values?_writes, Change.given?]
    cases e.values? <;> rfl
  | setValues v => rfl
  | label host cs => exact (c.length_values_label host cs).trans (length_leftValues leaves)

theorem length_values_changeAll {c : Criterion} {given : Value}
    (isGiven : c.values.length = given.items.length) {changes : List Change}
    (leave : ∀ change ∈ changes, change.LeavesCount c) :
    (c.changeAll changes).values.length = (Change.lastGiven given changes).items.length := by
  -- what was given is generalised, since a change may give something else
  induction changes generalizing c given with
  | nil => exact isGiven
  | cons change changes inductionHypothesis =>
    obtain ⟨first, others⟩ := List.forall_mem_cons.1 leave
    rw [Change.lastGiven_cons]
    refine inductionHypothesis ?_ fun change' member => (others change' member).change change
    rw [length_values_change first]
    cases change.given? with
    | none => exact isGiven
    | some v => rfl

/-! ## What is reported and what is matched -/

theorem summary_of_single {c : Criterion} (single : c.isSingle = true) :
    c.summary = c.values.headD .null := by
  rw [summary, if_pos single]

/-- Every value is matched by the criterion itself or goes to the override. -/
theorem length_unmarked_add (c : Criterion) :
    c.unmarked.length + c.marked.length = c.values.length := by
  rw [unmarked, marked, List.length_map, Nat.add_comm]
  exact (List.length_eq_length_filter_add Value.isMarked).symm

/-- An override criterion matches all values that it gets.  If it is a range, they play no part. -/
theorem clause_of_made {cs : Catalogs} {c o : Criterion} {vs : List Value}
    (made : c.override cs (.list vs) = .ok o) (unmarked : o.marked = []) (host : Host) :
    (o.isRange = false → o.clause host cs =
      ⟨[.compiled o.name], .ok (.matching o.form o.target (o.operand o.values))⟩) ∧
    (o.isRange = true → ∀ v, (o.setValues v).clause host cs = o.clause host cs) := by
  have typed : o.Typed := (Constructed.nested made).typed
  refine ⟨fun plain => ?_, fun ranged v => ?_⟩
  · rw [typed.clause_of_unmarked plain unmarked, unmarked_of_marked unmarked]
  · have settings : (o.setValues v).setting = o.setting := rfl
    have ranged' : (o.setValues v).isRange = true := ranged
    rw [clause_eq, clause_eq, if_pos ranged, if_pos ranged', rangeClause_congr settings]
    rfl

/-- A criterion has as many values as were given for it last, whether it is single or not, if the
labellers that had them in their hands left as many.  A single criterion reports all of its values
if there is no more than one, and the first of them otherwise.  Unless it is a range, its clause
matches the unmarked values and hands the marked ones to the override, which matches them all unless
it is a range itself. -/
theorem values_reported {cs : Catalogs} {c₀ : Criterion} {given : Value}
    (constructed : ConstructedWith cs given c₀) (changes : List Change) :
    let c := c₀.changeAll changes
    let last := Change.lastGiven given changes
    ((∀ change ∈ changes, change.LeavesCount c₀) → c.values.length = last.items.length) ∧
    c.isSingle = c₀.isSingle ∧ (c.name = .str keywordsName → c.isSingle = true) ∧
    (c.isSingle = true →
      (c.values.length ≤ 1 → c.values = [] ∧ c.summary = .null ∨ c.values = [c.summary]) ∧
      (1 < c.values.length → ∃ others, others ≠ [] ∧ c.values = c.summary :: others)) ∧
    (c.isRange = false → ∀ host : Host,
      c.unmarked.length + c.marked.length = c.values.length ∧
      (c.marked = [] → c.clause host cs =
        ⟨[.compiled c.name], .ok (.matching c.form c.target (c.operand c.values))⟩) ∧
      (c.marked ≠ [] → ∃ o, c.override cs (.list c.marked) = .ok o ∧ o.values = c.marked ∧
        (c.clause host cs).outcome = (o.clause host cs).outcome.map
          (.either (.matching c.form c.target (c.operand c.unmarked))) ∧
        (o.isRange = false → o.clause host cs =
          ⟨[.compiled o.name], .ok (.matching o.form o.target (o.operand o.values))⟩) ∧
        (o.isRange = true → ∀ v, (o.setValues v).clause host cs = o.clause host cs))) := by
  intro c last
  have typed : c.Typed := constructed.constructed.typed.changeAll changes
  have evolved : c.Evolved := ⟨cs, c₀, changes, constructed.constructed, rfl⟩
  refine ⟨?_, ?_, evolved.single_of_keywords, fun single => ?_, fun plain host => ?_⟩
  · exact length_values_changeAll (congrArg List.length constructed.values)
  · rw [isSingle, isSingle, flag, flag, setting_changeAll c₀ changes (by decide)]
  · rw [summary_of_single single]
    cases c.values with
    | nil => simp
    | cons v others => cases others <;> simp
  · refine ⟨c.length_unmarked_add, fun allOwn => ?_, fun marked => ?_⟩
    · rw [typed.clause_of_unmarked plain allOwn, unmarked_of_marked allOwn]
    · -- values play no part in whether there is an override, so the one probed at construction
      -- counts
      obtain ⟨o, made, _⟩ := exists_companion constructed.constructed changes plain marked
      refine ⟨o, made, values_override made, ?_, clause_of_made made (marked_override made) host⟩
      rw [typed.clause_of_override plain marked made host]
      cases (o.clause host cs).outcome <;> rfl

theorem values_reported_of_keywords :
    let config : Value := .map [("name", "keywords"), ("values", .list ["Homer", "Bart"])]
    let changes : List Change := [.setValues (.list ["Lisa", "Maggie"]),
      .label (Stock.host []) .initial, .edit (.variant .analyzed "Marge")]
    ∃ c, (Construction.ofConfig config).build .initial = .ok c ∧
      ConstructedWith .initial (.list ["Homer", "Bart"]) c ∧
      (c.changeAll changes).isSingle = true ∧ (c.changeAll changes).summary = "Marge" ∧
      (c.changeAll changes).values = [(c.changeAll changes).summary] ∧
      ((c.changeAll changes).clause (Stock.host []) .initial).outcome
        = .ok (.matching .plain "keywords.analyzed" "marge") := by
  intro config changes
  have made : ((Construction.ofConfig config).build .initial).map (fun c =>
      (((c.changeAll changes).isRange, (c.changeAll changes).name, (c.changeAll changes).summary),
        (c.changeAll changes).marked, (c.changeAll changes).form, (c.changeAll changes).target,
        (c.changeAll changes).operand (c.changeAll changes).values))
      = .ok ((false, "keywords", "Marge"), [], .plain, "keywords.analyzed", "marge") := by
    decide +kernel
  obtain ⟨c, builds, facts⟩ := Outcome.map_eq_ok.1 made
  simp only [Prod.mk.injEq] at facts
  obtain ⟨⟨plain, isName, isSummary⟩, allOwn, isForm, isTarget, isOperand⟩ := facts
  have constructed : ConstructedWith .initial (.list ["Homer", "Bart"]) c :=
    .built rfl (by decide +kernel) builds
  obtain ⟨counted, _, ofKeywords, reported, matched⟩ := values_reported constructed changes
  have single := ofKeywords isName
  have one : (c.changeAll changes).values.length = 1 := by
    refine counted fun change member => ?_
    simp only [changes, List.mem_cons, List.not_mem_nil, or_false] at member
    rcases member with rfl | rfl | rfl
    · trivial
    · exact fun l _ _ => (Labeller.leavesEntries_of_stock [] .initial l).leavesCount
    · trivial
  refine ⟨c, builds, constructed, single, isSummary, ?_, ?_⟩
  · refine ((reported single).1 one.le).resolve_left fun none => ?_
    cases isSummary.symm.trans none.2
  · obtain ⟨_, clause, _⟩ := matched plain (Stock.host [])
    rw [clause allOwn, isForm, isTarget, isOperand]

/-- A single criterion with two values reports the first one and matches both. -/
theorem single_with_two_values :
    let config : Value := .map [("name", "keywords"), ("values", .list ["Homer", "Bart"])]
    ((Construction.ofConfig config).build .initial).map (fun c =>
        (c.isSingle, c.values.length, c.summary, (c.clause (Stock.host []) .initial).outcome))
      = .ok (true, 2, "Homer", .ok (.matching .plain "keywords" (.list ["Homer", "Bart"]))) := by
  decide +kernel

end Criterion

end Criteria
