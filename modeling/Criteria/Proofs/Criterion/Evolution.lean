import Criteria.Criterion.Chain
import Criteria.Proofs.Criterion.Nesting

/-! # How criteria come to be and change

* `Constructed` — a criterion that one of the ways of construction gives;
* `Change`, `Criterion.changeAll` — what happens to a criterion later: calls that edit it, new
  values, and labelling, which may succeed or fail.

A change writes values, or settings that are for what it writes.  So all settings keep holding what
they are for (`Typed.changeAll`), and the fixed ones, on which the overrides of a criterion depend,
keep what they held at construction (`setting_changeAll`).
-/

namespace Criteria

/-! ## Construction -/

/-- A criterion constructed with some catalogs. -/
inductive Constructed (cs : Catalogs) : Criterion → Prop where
  | built {k : Construction} {c : Criterion} (builds : k.build cs = .ok c) : Constructed cs c
  | nested {c o : Criterion} {values : Value} (made : c.override cs values = .ok o) :
      Constructed cs o

theorem Constructed.accepted {cs : Catalogs} {c : Criterion} (constructed : Constructed cs c) :
    ∃ es, Criterion.ofEntries cs es = .ok c := by
  cases constructed with
  | built builds =>
    obtain ⟨config, _, accepted⟩ := Outcome.bind_eq_ok.1 builds
    cases config with
    | map es => exact ⟨es, accepted⟩
    | _ => cases accepted
  | nested made =>
    obtain ⟨spec, _, accepted⟩ := Criterion.override_eq_ok.1 made
    exact ⟨_, accepted⟩

theorem Constructed.typed {cs : Catalogs} {c : Criterion} (constructed : Constructed cs c) :
    c.Typed := by
  obtain ⟨es, accepted⟩ := constructed.accepted
  exact Criterion.typed_of_read (Criterion.ofEntries_eq_ok.1 accepted).1

/-! ## Changes -/

/-- Something that changes a criterion after its construction. -/
inductive Change where
  | edit (e : Edit)
  | setValues (v : Value)
  | label (host : Host) (cs : Catalogs)

/-- The settings that no change writes. -/
def Setting.fixed : List Setting :=
  [.name, .field, .single, .fields, .override, .transform, .labels, .catalog, .engine]

/-- A write that leaves the fixed settings alone and gives another one what it is for. -/
def Write.Fits : Write → Prop
  | .values _ => True
  | .setting s v => s ∉ Setting.fixed ∧ s.Holds v

theorem Edit.boundWrites_fit (b : Bound) (v : Value) : ∀ w ∈ boundWrites b v, w.Fits := by
  intro w member
  rcases List.mem_cons.1 member with rfl | member
  · exact ⟨by decide, .inr ⟨true, rfl⟩⟩
  · rw [List.mem_singleton.1 member]
    refine ⟨?_, .inr trivial⟩
    cases b <;> decide

theorem Edit.writes_fit (e : Edit) : ∀ w ∈ e.writes, w.Fits := by
  -- every call but those for bounds sets at most one flag, and then the values
  have flagged {s : Setting} {b : Bool} {v : Value} (free : s ∉ Setting.fixed)
      (flag : s.shape = .flag) : ∀ w ∈ [Write.setting s (.bool b), .values v], w.Fits := by
    intro w member
    rcases List.mem_cons.1 member with rfl | member
    · exact ⟨free, .inr (flag ▸ ⟨b, rfl⟩)⟩
    · rw [List.mem_singleton.1 member]
      trivial
  cases e with
  | equal v =>
    intro w member
    rw [List.mem_singleton.1 member]
    trivial
  | anyOf v | allOf v | noneOf v => exact flagged (by decide) rfl
  | variant form v => cases form <;> exact flagged (by decide) rfl
  | bound b v => exact boundWrites_fit b v
  | between low high | fromTo low high =>
    intro w member
    rcases List.mem_append.1 member with member | member
    · exact boundWrites_fit _ _ w member
    · exact boundWrites_fit _ _ w member

namespace Criterion

/-- A criterion after a change. -/
def change (c : Criterion) : Change → Criterion
  | .edit e => c.edit e
  | .setValues v => c.setValues v
  | .label host cs => (c.label host cs).1

/-- A criterion after several changes, one after the other. -/
def changeAll (c : Criterion) (changes : List Change) : Criterion :=
  changes.foldl change c

/-! ## What a change keeps -/

theorem setting_label (c : Criterion) (host : Host) (cs : Catalogs) :
    (c.label host cs).1.setting = c.setting := by
  simp only [label]
  split <;> rfl

theorem setting_write {c : Criterion} {w : Write} (fits : w.Fits) {s : Setting}
    (fixed : s ∈ Setting.fixed) : (c.write w).setting s = c.setting s := by
  cases w with
  | values v => rfl
  | setting s' v =>
    have other : s ≠ s' := fun same => fits.1 (same ▸ fixed)
    rw [write, setting_set, if_neg other]

theorem Typed.write {c : Criterion} (typed : c.Typed) {w : Write} (fits : w.Fits) :
    (c.write w).Typed := by
  cases w with
  | values v => exact typed
  | setting s v => exact typed.set fits.2

theorem setting_writeAll {c : Criterion} {ws : List Write} (fit : ∀ w ∈ ws, w.Fits) {s : Setting}
    (fixed : s ∈ Setting.fixed) : (c.writeAll ws).setting s = c.setting s := by
  induction ws generalizing c with
  | nil => rfl
  | cons w ws inductionHypothesis =>
    rw [writeAll_cons, inductionHypothesis fun w member => fit w (List.mem_cons_of_mem _ member)]
    exact setting_write (fit w List.mem_cons_self) fixed

theorem Typed.writeAll {c : Criterion} (typed : c.Typed) {ws : List Write}
    (fit : ∀ w ∈ ws, w.Fits) : (c.writeAll ws).Typed := by
  induction ws generalizing c with
  | nil => exact typed
  | cons w ws inductionHypothesis =>
    exact inductionHypothesis (typed.write (fit w List.mem_cons_self))
      fun w member => fit w (List.mem_cons_of_mem _ member)

theorem setting_change (c : Criterion) (change : Change) {s : Setting}
    (fixed : s ∈ Setting.fixed) : (c.change change).setting s = c.setting s := by
  cases change with
  | edit e => exact setting_writeAll e.writes_fit fixed
  | setValues v => rfl
  | label host cs => exact congrFun (c.setting_label host cs) s

theorem Typed.change {c : Criterion} (typed : c.Typed) (change : Change) :
    (c.change change).Typed := by
  cases change with
  | edit e => exact typed.writeAll e.writes_fit
  | setValues v => exact typed
  | label host cs =>
    intro s
    rw [Criterion.change, setting_label]
    exact typed s

/-! ## What a run of changes keeps -/

theorem setting_changeAll (c : Criterion) (changes : List Change) {s : Setting}
    (fixed : s ∈ Setting.fixed) : (c.changeAll changes).setting s = c.setting s := by
  induction changes generalizing c with
  | nil => rfl
  | cons change changes inductionHypothesis =>
    exact (inductionHypothesis (c.change change)).trans (c.setting_change change fixed)

theorem Typed.changeAll {c : Criterion} (typed : c.Typed) (changes : List Change) :
    (c.changeAll changes).Typed := by
  induction changes generalizing c with
  | nil => exact typed
  | cons change changes inductionHypothesis => exact inductionHypothesis (typed.change change)

/-- Changes do not touch what the overrides of a criterion depend on. -/
theorem override_changeAll (cs : Catalogs) (c : Criterion) (changes : List Change)
    (values : Value) : (c.changeAll changes).override cs values = c.override cs values := by
  apply override_congr
  intro s member
  apply setting_changeAll
  revert s
  decide

theorem labeller_congr {c d : Criterion} {host : Host} {cs : Catalogs}
    (same : ∀ s ∈ Setting.fixed, c.setting s = d.setting s) :
    c.labeller host cs = d.labeller host cs := by
  have catalogs : c.catalogName? = d.catalogName? := by
    rw [catalogName?, catalogName?, same .catalog (by decide)]
  have options : c.labelOptions = d.labelOptions := by
    rw [labelOptions, labelOptions, labelOptions?, labelOptions?, flag, flag,
      same .labels (by decide)]
  have arguments (o : Labels.Options) : c.labellerArguments o = d.labellerArguments o := by
    rw [labellerArguments, labellerArguments, name, name, same .engine (by decide),
      same .name (by decide)]
  simp only [labeller, Criterion.catalog, catalogs, options, arguments]

/-- Changes do not touch what the labeller of a criterion depends on. -/
theorem labeller_change (host : Host) (cs : Catalogs) (c : Criterion) (change : Change) :
    (c.change change).labeller host cs = c.labeller host cs :=
  labeller_congr fun _ fixed => c.setting_change change fixed

/-! ## Criteria as they are met -/

/-- A criterion that was constructed with some catalogs and then changed any number of times. -/
def Evolved (c : Criterion) : Prop :=
  ∃ cs c₀ changes, Constructed cs c₀ ∧ c = c₀.changeAll changes

theorem Evolved.of_constructed {cs : Catalogs} {c : Criterion} (constructed : Constructed cs c) :
    c.Evolved :=
  ⟨cs, c, [], constructed, rfl⟩

theorem Evolved.change {c : Criterion} (evolved : c.Evolved) (change : Change) :
    (c.change change).Evolved := by
  obtain ⟨cs, c₀, changes, constructed, rfl⟩ := evolved
  refine ⟨cs, c₀, changes ++ [change], constructed, ?_⟩
  rw [changeAll, changeAll, List.foldl_append]
  rfl

theorem Evolved.typed {c : Criterion} (evolved : c.Evolved) : c.Typed := by
  obtain ⟨cs, c₀, changes, constructed, rfl⟩ := evolved
  exact constructed.typed.changeAll changes

end Criterion

end Criteria
