import Criteria.Criterion.Reading
import Criteria.Fault.Outcome

/-! # Override criteria

The marked values of a criterion are matched by another criterion, which has a configuration of
its own.  That configuration may configure an override in turn.

* `Entries.overrideChain` — the override configurations inside a configuration, outermost first;
* `Criterion.overrideConfig` — the configuration of the override criterion for some values;
* `Criterion.ofChain`, `Criterion.ofEntries` — a criterion read together with all its overrides;
* `Criterion.override` — the override criterion for some values.

`ofEntries_eq` says what reading a criterion amounts to: the configuration describes a criterion,
its labeller is known, and its override criterion for no values can be read, in this order.
`values_override` says that an override criterion has exactly the values it was made for.
-/

namespace Criteria

/-! ## Chains of overrides -/

mutual

/-- The configurations in an override setting, outermost first. -/
def Value.overrideChain : Value → List Entries
  | .map es => es :: Entries.overrideChain es
  | _ => []

/-- The override configurations inside a configuration, outermost first. -/
def Entries.overrideChain : List (Value × Value) → List Entries
  | [] => []
  | (k, v) :: es =>
    if k.sameKey (.str "user_query") then v.overrideChain else Entries.overrideChain es

end

theorem Entries.overrideChain_eq (es : Entries) :
    Entries.overrideChain es = (Entries.get es Setting.override.key).overrideChain := by
  induction es with
  | nil => rfl
  | cons e es ih =>
    simp only [Entries.overrideChain, Entries.get, Entries.get?_cons]
    split
    next h => simp [Setting.key, h]
    next h => simp [Setting.key, h, ih, Entries.get]

namespace Criterion

/-! ## The configuration of an override -/

/-- What an override criterion takes from its parent unless its configuration says otherwise. -/
def inherited (c : Criterion) : Entries :=
  [.name, .transform, .catalog, .engine].map fun s : Setting => (.str s.key, c.setting s)

/-- The configuration of the override criterion, with `spec` in its setting and the given values. -/
def overrideConfig (c : Criterion) (spec : Entries) (values : Value) : Entries :=
  Entries.insert (Entries.overlay c.inherited spec) valuesKey values

/-- The entries that the override setting of a criterion holds: none unless it is set. -/
def overrideSpec (c : Criterion) : Except Fault Entries :=
  if c.flag .override then (c.setting .override).spread.mapError .misuse else .ok []

/-! ## Reading a criterion with its overrides -/

/-- The criterion that a configuration describes by itself, with a known labeller. -/
def ofEntriesAlone (cs : Catalogs) (es : Entries) : Except Fault Criterion := do
  let c ← Config.read es
  c.checkLabeller cs
  return c

/-- The criterion that a configuration describes, when the override configurations inside it are
those given: each of them must describe a criterion for no values. -/
def ofChain (cs : Catalogs) (es : Entries) : List Entries → Except Fault Criterion
  | [] => ofEntriesAlone cs es
  | spec :: specs => do
    let c ← ofEntriesAlone cs es
    let _ ← ofChain cs (c.overrideConfig spec (.list [])) specs
    return c

/-- The criterion that a configuration describes. -/
def ofEntries (cs : Catalogs) (es : Entries) : Except Fault Criterion :=
  ofChain cs es (Entries.overrideChain es)

/-- The override configurations inside that of an override are those inside the override setting,
since nothing of them is inherited. -/
theorem overrideChain_overrideConfig (c : Criterion) (spec : Entries) (values : Value) :
    Entries.overrideChain (c.overrideConfig spec values) = Entries.overrideChain spec := by
  rw [Entries.overrideChain_eq, Entries.overrideChain_eq]
  congr 1
  simp only [overrideConfig, Entries.get, Entries.get?_insert, Entries.get?_overlay, inherited]
  cases Entries.get? spec (.str Setting.override.key) <;>
    simp [valuesKey, Setting.key, Entries.get?_cons]

/-- Reading a criterion: its configuration describes one, its labeller is known, and its override
criterion for no values can be read. -/
theorem ofEntries_eq (cs : Catalogs) (es : Entries) :
    ofEntries cs es = (do
      let c ← ofEntriesAlone cs es
      match Entries.get es Setting.override.key with
      | .map spec => do
        let _ ← ofEntries cs (c.overrideConfig spec (.list []))
        return c
      | _ => return c) := by
  unfold ofEntries
  rw [Entries.overrideChain_eq]
  cases Entries.get es Setting.override.key with
  | map spec =>
    simp only [Value.overrideChain, ofChain, overrideChain_overrideConfig]
  | _ =>
    simp only [Value.overrideChain, ofChain]
    cases ofEntriesAlone cs es <;> rfl

/-! ## Values of a criterion that was read -/

/-- The values of a criterion are those of its configuration. -/
theorem values_of_read {es : Entries} {c : Criterion} (h : Config.read es = .ok c) :
    c.values = (Entries.get es valuesKey).items := by
  unfold Config.read Config.readEntries at h
  split at h
  · cases h
  · split at h
    · cases h
      unfold Config.contents Config.markSingle
      split
      · simp [Entries.get, Entries.get?_insert, Setting.key, valuesKey]
      · rfl
    · cases h

/-- A criterion with a known labeller is the one its configuration describes by itself. -/
theorem ofEntriesAlone_eq_ok {cs : Catalogs} {es : Entries} {c : Criterion} :
    ofEntriesAlone cs es = .ok c ↔ Config.read es = .ok c ∧ c.checkLabeller cs = .ok () := by
  unfold ofEntriesAlone
  constructor
  · intro h
    obtain ⟨d, hread, h⟩ := Outcome.bind_eq_ok.1 h
    obtain ⟨⟨⟩, hlabeller, h⟩ := Outcome.bind_eq_ok.1 h
    cases h
    exact ⟨hread, hlabeller⟩
  · rintro ⟨hread, hlabeller⟩
    exact Outcome.bind_eq_ok.2 ⟨c, hread, Outcome.bind_eq_ok.2 ⟨(), hlabeller, rfl⟩⟩

/-- A criterion that is read together with its overrides is the one read by itself. -/
theorem ofEntriesAlone_of_ofEntries {cs : Catalogs} {es : Entries} {c : Criterion}
    (h : ofEntries cs es = .ok c) : ofEntriesAlone cs es = .ok c := by
  rw [ofEntries_eq] at h
  obtain ⟨d, hd, h⟩ := Outcome.bind_eq_ok.1 h
  split at h
  next spec _ =>
    obtain ⟨_, _, h⟩ := Outcome.bind_eq_ok.1 h
    cases h
    exact hd
  next =>
    cases h
    exact hd

/-- The criterion that a value describes. -/
def ofValue (cs : Catalogs) : Value → Except Fault Criterion
  | .map es => ofEntries cs es
  | _ => .error (.misfit .criterion [.here (.notModel .criterion)])

/-- The override criterion for some values. -/
def override (cs : Catalogs) (c : Criterion) (values : Value) : Except Fault Criterion := do
  let spec ← c.overrideSpec
  ofEntries cs (c.overrideConfig spec values)

/-- An override criterion is the one that its configuration describes. -/
theorem override_eq_ok {cs : Catalogs} {c o : Criterion} {values : Value} :
    c.override cs values = .ok o ↔
      ∃ spec, c.overrideSpec = .ok spec ∧ ofEntries cs (c.overrideConfig spec values) = .ok o :=
  Outcome.bind_eq_ok

/-- An override criterion has the values it was made for, whatever its configuration says. -/
theorem values_override {cs : Catalogs} {c o : Criterion} {values : Value}
    (h : c.override cs values = .ok o) : o.values = values.items := by
  obtain ⟨spec, _, h⟩ := override_eq_ok.1 h
  have hread := (ofEntriesAlone_eq_ok.1 (ofEntriesAlone_of_ofEntries h)).1
  rw [values_of_read hread, overrideConfig, Entries.get_insert_str]

end Criterion

end Criteria
