import Criteria.Criterion.Chain
import Criteria.Proofs.Criterion.LastWrites
import Criteria.Stock.Host

/-! # Chains and configurations at once

A chain of calls on a new criterion comes to the same as a construction from attributes that are
overridden by what the calls write last.

* `Edit.overriding` — attributes overridden by the last writes of some calls;
* `Chain.run_calls` — a chain of calls by their names ends with the edited criterion;
* `Construction.build_writeAll` — the construction at once gives that criterion too.
-/

namespace Criteria

/-! ## Calls by name -/

namespace Chain

theorem contains_of_ofCall {name : String} {arguments : List Value} {e : Edit}
    (isCall : Edit.ofCall name arguments = .ok e) : Edit.ofCall.names.contains name = true := by
  unfold Edit.ofCall at isCall
  split at isCall
  case h_16 => split at isCall <;> cases isCall
  all_goals rfl

theorem callEditing_of_ofCall {cs : Catalogs} {c : Criterion} {name : String}
    {arguments : List Value} {e : Edit} (isCall : Edit.ofCall name arguments = .ok e) :
    (start c).callEditing cs name arguments = (start (c.edit e), none) := by
  unfold callEditing
  -- the three names that are no edits come first
  split
  · cases isCall
  · cases isCall
  · cases isCall
  · rw [isCall]
    rfl

theorem call_of_ofCall {host : Host} {cs : Catalogs} {c : Criterion} {name : String}
    {arguments : List Value} {e : Edit} (isCall : Edit.ofCall name arguments = .ok e) :
    (start c).call host cs name (.ok arguments) = (start (c.edit e), none) := by
  have known : (start c).knows name = true := by
    change (stageNames.contains name || Edit.ofCall.names.contains name) = true
    rw [contains_of_ofCall isCall, Bool.or_true]
  unfold call
  rw [if_pos known]
  exact callEditing_of_ofCall isCall

theorem run_calls {host : Host} {cs : Catalogs} {c : Criterion}
    {calls : List (String × List Value)} {es : List Edit}
    (named : List.Forall₂ (fun call e => Edit.ofCall call.1 call.2 = .ok e) calls es) :
    (start c).run host cs (calls.map fun call => (.ok call.1, .ok call.2)) =
      (start (c.editAll es), none) := by
  induction named generalizing c with
  | nil => rfl
  | cons isCall _ inductionHypothesis =>
    rw [List.map_cons, run, call_of_ofCall isCall]
    exact inductionHypothesis

end Chain

/-! ## Construction at once -/

theorem Write.cls_not_mem_keys (w : Write) : "cls" ∉ w.keys := by
  intro written
  cases w with
  | values v => exact absurd (List.mem_singleton.1 written) (by decide)
  | setting s v =>
    have spells := Setting.ofSpelling?_of_mem written
    have none : Setting.ofSpelling? "cls" = none := by decide +kernel
    rw [none] at spells
    cases spells

namespace Construction

theorem refuseNames_eq_ok {taken : List String} {es : Entries} :
    refuseNames taken es = .ok () ↔ ∀ k ∈ taken, Entries.hasKey es (.str k) = false := by
  unfold refuseNames
  split
  next found =>
    obtain ⟨k, member, present⟩ := List.any_eq_true.1 found
    refine ⟨nofun, fun free => ?_⟩
    rw [free k member] at present
    cases present
  next free =>
    refine ⟨fun _ k member => ?_, fun _ => rfl⟩
    rw [Bool.eq_false_iff]
    exact fun present => free (List.any_eq_true.2 ⟨k, member, present⟩)

theorem build_toEdit_eq_ok {cs : Catalogs} {name : Value} {attributes : Entries} {c : Criterion} :
    (toEdit name (.map attributes)).build cs = .ok c ↔
      refuseNames ["cls", "name"] attributes = .ok () ∧
        Criterion.ofEntries cs (Entries.overlay [(.str Setting.name.key, name)] attributes)
          = .ok c := by
  unfold build
  constructor
  · intro builds
    obtain ⟨config, isConfig, accepted⟩ := Outcome.bind_eq_ok.1 builds
    obtain ⟨_, free, isConfig⟩ := Outcome.bind_eq_ok.1 isConfig
    cases isConfig
    exact ⟨free, accepted⟩
  · rintro ⟨free, accepted⟩
    refine Outcome.bind_eq_ok.2 ⟨_, Outcome.bind_eq_ok.2 ⟨(), free, rfl⟩, accepted⟩

/-- Attributes that are overridden by changes that fit construct the criterion with these
changes. -/
theorem build_writeAll {cs : Catalogs} {name : Value} {attributes : Entries} {c : Criterion}
    (builds : (toEdit name (.map attributes)).build cs = .ok c) {ws : List Write}
    (fit : ∀ w ∈ ws, w.Fits) :
    (toEdit name (.map (Config.writeAll attributes ws))).build cs = .ok (c.writeAll ws) := by
  obtain ⟨free, accepted⟩ := build_toEdit_eq_ok.1 builds
  refine build_toEdit_eq_ok.2 ⟨?_, Criterion.ofEntries_overlay_writeAll accepted fit ?_⟩
  · rw [refuseNames_eq_ok] at free ⊢
    intro k taken
    have unwritten : ∀ w ∈ ws, k ∉ w.keys := by
      intro w member
      rcases List.mem_cons.1 taken with rfl | isName
      · exact Write.cls_not_mem_keys w
      · rw [List.mem_singleton.1 isName]
        exact (fit w member).key_not_mem (s := .name) (by decide)
    rw [← Entries.isSome_get?, Config.get?_writeAll_of_not_mem unwritten, Entries.isSome_get?]
    exact free k taken
  · intro w member k written
    have differ : Setting.name.key ≠ k := by
      rintro rfl
      exact (fit w member).key_not_mem (by decide) written
    simp [Entries.get?_cons, differ]

end Construction

/-! ## Refinement -/

/-- Attributes that are overridden by what some calls write last. -/
def Edit.overriding (attributes : Entries) (es : List Edit) : Entries :=
  Config.writeAll attributes (lastWrites es)

/-- A chain of calls on a criterion that was built from attributes ends with the very criterion that
is built from these attributes overridden by the last writes of the chain, so the two have the same
clause and summary.  Its state is what the chain writes last, or what the attributes say where it
writes nothing; and a chain with the same last writes would do as well. -/
theorem Chain.refines {host : Host} {cs : Catalogs} {name : Value} {attributes : Entries}
    {c : Criterion} (builds : (Construction.toEdit name (.map attributes)).build cs = .ok c)
    {calls : List (String × List Value)} {es : List Edit}
    (named : List.Forall₂ (fun call e => Edit.ofCall call.1 call.2 = .ok e) calls es) :
    (start c).run host cs (calls.map fun call => (.ok call.1, .ok call.2))
        = (start (c.editAll es), none) ∧
      (Construction.toEdit name (.map (Edit.overriding attributes es))).build cs
        = .ok (c.editAll es) ∧
      (c.editAll es).values = ((Edit.lastValues? es).map Value.items).getD c.values ∧
      (∀ s, (c.editAll es).setting s = (Edit.lastSetting? es s).getD (c.setting s)) ∧
      ∀ es', Edit.lastValues? es = Edit.lastValues? es' →
        (∀ s, Edit.lastSetting? es s = Edit.lastSetting? es' s) → c.editAll es' = c.editAll es := by
  refine ⟨run_calls named, ?_, c.values_editAll es, c.setting_editAll es, ?_⟩
  · rw [← c.writeAll_lastWrites]
    exact Construction.build_writeAll builds (Edit.lastWrites_fit es)
  · intro es' values settings
    exact (c.editAll_congr values settings).symm

theorem Chain.refines_of_aliases :
    ∃ c d : Criterion,
      (Construction.toEdit "tags" (.map [("and", .bool false), ("from", .int 1)])).build .initial
        = .ok c ∧
      (Construction.toEdit "tags" (.map [("values", "b"), ("range", .bool true),
        ("and_", .bool true), ("from_", .int 5)])).build .initial = .ok d ∧
      (start c).run (Stock.host []) .initial [(.ok "gt", .ok [.int 3]), (.ok "and_", .ok ["a"]),
        (.ok "gt", .ok [.int 5]), (.ok "eq", .ok ["b"])] = (start d, none) := by
  let attributes : Entries := [("and", .bool false), ("from", .int 1)]
  let es : List Edit := [.bound .above (.int 3), .allOf "a", .bound .above (.int 5), .equal "b"]
  have made : ((Construction.toEdit "tags" (.map attributes)).build .initial).map (fun c =>
      c.values) = .ok [] := by
    decide +kernel
  obtain ⟨c, builds, _⟩ := Outcome.map_eq_ok.1 made
  let overrides : Entries :=
    [("values", "b"), ("range", .bool true), ("and_", .bool true), ("from_", .int 5)]
  have overridden : Edit.overriding attributes es = overrides := by
    decide +kernel
  have named : List.Forall₂ (fun (call : String × List Value) e =>
      Edit.ofCall call.1 call.2 = .ok e)
      [("gt", [.int 3]), ("and_", ["a"]), ("gt", [.int 5]), ("eq", ["b"])] es :=
    .cons rfl (.cons rfl (.cons rfl (.cons rfl .nil)))
  obtain ⟨runs, atOnce, _⟩ := @refines (Stock.host []) _ _ _ _ builds _ _ named
  rw [overridden] at atOnce
  exact ⟨c, c.editAll es, builds, atOnce, runs⟩

end Criteria
