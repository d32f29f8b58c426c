import Criteria.Criterion.Basic
import Criteria.Fault.Basic

/-! # Summaries

What a criterion shows of itself.

* `Criterion.isBlank` — whether it matches nothing in particular;
* `Criterion.summary` — its observable state, in a shape that depends on the kind of criterion;
* `Criterion.state` — all its attributes;
* `Value.plain`, `Value.keysStayKeys` — a value as plain data, and when it can be written as such;
* `Criterion.dump` — the attributes that make a configuration, as plain data.

Plain data writes label options as mappings, so a key that holds label options would be no key.
-/

namespace Criteria

namespace Bound

/-- The key of an end of a range in summaries. -/
def summaryKey : Bound → String
  | .atLeast => "from_eq"
  | .above => "from"
  | .atMost => "to_eq"
  | .below => "to"

end Bound

namespace Criterion

/-! ## Blank criteria -/

/-- Whether a value is null or the empty text. -/
def isEmptyValue (v : Value) : Bool :=
  v.isNull || decide (v = .str "")

/-- Whether every value is empty and the criterion is no range. -/
def isBlank (c : Criterion) : Bool :=
  c.values.all isEmptyValue && !c.isRange

/-! ## Summaries -/

/-- The ends of a range that are given, with their raw values, in the order of clauses. -/
def rawBounds (c : Criterion) : List (Bound × Value) :=
  (Bound.all.map fun b => (b, c.setting (.bound b))).filter fun b => b.2.isPresent

/-- The observable state of a criterion: its only value, its bounds, or its values with the
decision whether all have to match. -/
def summary (c : Criterion) : Value :=
  if c.isSingle then
    c.values.headD .null
  else if c.isRange then
    .map (c.rawBounds.map fun b => (.str b.1.summaryKey, b.2))
  else
    .map [(.str valuesKey, .list c.values), (.str "and", .bool (c.flag .combine))]

/-- All attributes of a criterion, under their names. -/
def state (c : Criterion) : Value :=
  .map ((.str valuesKey, .list c.values)
    :: Setting.all.map fun s => (.str s.key, c.setting s))

end Criterion

/-! ## Dumps -/

namespace Value

mutual

/-- A value with all label options in it written as mappings. -/
def plain : Value → Value
  | .list items => .list (plainItems items)
  | .tuple items => .tuple (plainItems items)
  | .map entries => .map (plainEntries entries)
  | .options o => .map (optionEntries o)
  | v => v

/-- The items of a sequence with all label options written as mappings. -/
def plainItems : List Value → List Value
  | [] => []
  | v :: vs => plain v :: plainItems vs

/-- The entries of a mapping with all label options written as mappings. -/
def plainEntries : List (Value × Value) → List (Value × Value)
  | [] => []
  | (k, v) :: es => (k, plain v) :: plainEntries es

end

mutual

/-- Whether a value holds label options, in the items of sequences and as itself. -/
def holdsOptions : Value → Bool
  | .options _ => true
  | .list items | .tuple items => holdOptions items
  | _ => false

/-- Whether some item of a sequence holds label options. -/
def holdOptions : List Value → Bool
  | [] => false
  | v :: vs => holdsOptions v || holdOptions vs

end

mutual

/-- Whether no key of a mapping inside a value holds label options. -/
def keysStayKeys : Value → Bool
  | .list items | .tuple items => itemsStayKeys items
  | .map entries => entriesStayKeys entries
  | _ => true

/-- Whether no key of a mapping inside the items of a sequence holds label options. -/
def itemsStayKeys : List Value → Bool
  | [] => true
  | v :: vs => keysStayKeys v && itemsStayKeys vs

/-- Whether no key of a mapping, or of a mapping inside its values, holds label options. -/
def entriesStayKeys : List (Value × Value) → Bool
  | [] => true
  | (k, v) :: es => !holdsOptions k && keysStayKeys v && entriesStayKeys es

end

/-- Whether a value is a collaborator: a function, a catalog or an engine. -/
def isCollaborator : Value → Bool
  | .transform _ | .catalog _ | .engine _ => true
  | _ => false

end Value

namespace Setting

/-- Whether a setting is left out of dumps, because it holds a collaborator. -/
def isCollaborator : Setting → Bool
  | .transform | .catalog | .engine => true
  | _ => false

/-- The spelling of a setting in dumps. -/
def dumpKey (aliased : Bool) (s : Setting) : String :=
  if aliased then s.alias?.getD s.key else s.key

end Setting

namespace Criterion

/-- What a setting of a criterion holds, as plain data.  A collaborator in place of label options
has none of their members. -/
def plainSetting (c : Criterion) (s : Setting) : Value :=
  if s = .labels ∧ (c.setting s).isCollaborator then .map [] else (c.setting s).plain

/-- The settings that dumps show. -/
def dumpedSettings : List Setting :=
  Setting.all.filter fun s => !s.isCollaborator

/-- Whether all keys of a criterion stay keys in plain data. -/
def isPlainable (c : Criterion) : Bool :=
  Value.itemsStayKeys c.values && dumpedSettings.all fun s => (c.setting s).keysStayKeys

/-- The attributes that make a configuration, as plain data, in either spelling. -/
def dump (aliased : Bool) (c : Criterion) : Except Fault Value :=
  if c.isPlainable then
    .ok (.map ((.str valuesKey, .list (Value.plainItems c.values))
      :: dumpedSettings.map fun s => (.str (s.dumpKey aliased), c.plainSetting s)))
  else
    .error .wrongType

end Criterion

end Criteria
