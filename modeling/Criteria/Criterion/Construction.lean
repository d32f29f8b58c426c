import Criteria.Criterion.Override

/-! # Constructions

The ways in which a criterion comes into being.

* `Construction` — from a configuration, from named attributes, from the short form used in
  requests, or as the start of a chain of edits;
* `Construction.config` — the configuration that a construction amounts to;
* `Construction.build` — the criterion constructed.

In the short form a mapping holds attributes, which are laid over the defaults, and anything else
is the values.
-/

namespace Criteria

/-- A way in which a criterion comes into being. -/
inductive Construction where
  /-- From a configuration. -/
  | ofConfig (config : Value)
  /-- From named attributes. -/
  | ofAttributes (attributes : Value)
  /-- From a name, a short form and defaults. -/
  | ofShortForm (name config : Value) (defaults : Entries)
  /-- From a name and named attributes, to be edited further. -/
  | toEdit (name attributes : Value)
deriving Repr

namespace Construction

/-- Refuses named attributes under a name that is taken. -/
def refuseNames (taken : List String) (es : Entries) : Except Fault Unit :=
  if taken.any fun k => Entries.hasKey es k then .error .wrongType else .ok ()

/-- The attributes that a short form stands for. -/
def shortFormEntries (config : Value) (defaults : Entries) : Entries :=
  match config with
  | .map es => Entries.overlay defaults es
  | v => Entries.insert defaults valuesKey v

/-- The configuration that a construction amounts to. -/
def config : Construction → Except Fault Value
  | .ofConfig config => .ok config
  | .ofAttributes attributes => match attributes with
    | .map es => .ok (.map es)
    | _ => .error .wrongType
  | .ofShortForm name config defaults => do
    refuseNames ["cls", "name", "config"] defaults
    return .map (Entries.insert (shortFormEntries config defaults) Setting.name.key name)
  | .toEdit name attributes => match attributes with
    | .map es => do
      refuseNames ["cls", "name"] es
      return .map (Entries.overlay [(.str Setting.name.key, name)] es)
    | _ => .error .wrongType

/-- The criterion constructed. -/
def build (cs : Catalogs) (k : Construction) : Except Fault Criterion := do
  let config ← k.config
  Criterion.ofValue cs config

end Construction

end Criteria
