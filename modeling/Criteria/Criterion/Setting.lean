import Criteria.Clause.Basic
import Criteria.Labels.Reading

/-! # Settings of a criterion

The attributes of a criterion other than its values.

* `Setting` — the settings, with `Setting.all` in the order in which a configuration is checked;
* `Setting.key`, `Setting.alias?` — the two spellings a setting may have in a configuration;
* `Setting.spelling?` — the spelling that a configuration uses;
* `Setting.shape`, `Setting.optional`, `Setting.default` — what a setting holds;
* `Setting.read` — the value a setting is given by a configuration, or the issues.

Where a configuration has both spellings of a setting, the alias is the one that counts.
-/

namespace Criteria

/-- An attribute of a criterion other than its values. -/
inductive Setting where
  /-- The name, which is also the field unless another one is set. -/
  | name
  /-- The field to query in place of the name. -/
  | field
  /-- Query the analysed variant, in lower case. -/
  | analyzed
  /-- Query the beginnings of texts. -/
  | leading
  /-- Query the middles of texts. -/
  | anywhere
  /-- Query the variant for completion while typing. -/
  | completing
  /-- The criterion has one value. -/
  | single
  /-- The criterion is a range. -/
  | range
  /-- Whether all values have to match, if that was ever decided. -/
  | combine
  /-- Whether the values are excluded, if that was ever decided. -/
  | exclude
  /-- An end of the range. -/
  | bound (b : Bound)
  /-- Fields the criterion is about. -/
  | fields
  /-- The configuration of the override criterion. -/
  | override
  /-- The function applied to the ends of the range. -/
  | transform
  /-- Where labels come from. -/
  | labels
  /-- The catalog that labellers are taken from. -/
  | catalog
  /-- The engine that labels are searched with. -/
  | engine
deriving DecidableEq, Repr

/-- What a setting may hold. -/
inductive Shape where
  | text
  | flag
  | anything
  | texts
  | mapping
  | transform
  | options
  | catalog
deriving DecidableEq, Repr

/-- A value read as what a shape holds. -/
def Shape.read : Shape → Value → Reading Value
  | .text, v => v.readText.map .str
  | .flag, v => v.readFlag.map .bool
  | .anything, v => .ok v
  | .texts, v => v.readTexts.map .list
  | .mapping, v => v.readMap.map .map
  | .transform, v => v.readTransform.map .transform
  | .options, v => ((Labels.Options.read v).map .options)
  | .catalog, v => v.readCatalog.map .catalog

namespace Setting

/-- All settings, in the order in which a configuration is checked. -/
def all : List Setting :=
  [.name, .field, .analyzed, .leading, .anywhere, .completing, .single, .range, .combine, .exclude,
    .bound .atLeast, .bound .atMost, .bound .above, .bound .below, .fields, .override, .transform,
    .labels, .catalog, .engine]

theorem mem_all (s : Setting) : s ∈ all := by
  cases s with
  | bound b => cases b <;> decide
  | _ => decide

theorem nodup_all : all.Nodup := by
  decide

/-! ## Spellings -/

/-- The name of a setting. -/
def key : Setting → String
  | .name => "name"
  | .field => "query_name"
  | .analyzed => "search_analyzed"
  | .leading => "prefix"
  | .anywhere => "any_text"
  | .completing => "autocomplete"
  | .single => "single"
  | .range => "range"
  | .combine => "and_"
  | .exclude => "not_"
  | .bound .atLeast => "from_eq"
  | .bound .atMost => "to_eq"
  | .bound .above => "from_"
  | .bound .below => "to"
  | .fields => "fields"
  | .override => "user_query"
  | .transform => "transform"
  | .labels => "lookup"
  | .catalog => "resolvers"
  | .engine => "search_context"

/-- The other spelling of a setting in configurations. -/
def alias? : Setting → Option String
  | .combine => some "and"
  | .exclude => some "not"
  | .bound .above => some "from"
  | _ => none

/-- The setting with a name. -/
def ofKey? (k : String) : Option Setting :=
  all.find? fun s => s.key == k

/-- The spellings of a setting, the one that counts first. -/
def spellings (s : Setting) : List String :=
  s.alias?.toList ++ [s.key]

/-- The spelling of a setting that a configuration uses. -/
def spelling? (es : Entries) (s : Setting) : Option String :=
  s.spellings.find? fun k => Entries.hasKey es k

/-! ## Contents -/

/-- What a setting holds. -/
def shape : Setting → Shape
  | .name | .field => .text
  | .analyzed | .leading | .anywhere | .completing | .single | .range => .flag
  | .combine | .exclude => .flag
  | .bound _ | .engine => .anything
  | .fields => .texts
  | .override => .mapping
  | .transform => .transform
  | .labels => .options
  | .catalog => .catalog

/-- Whether a setting may be null. -/
def optional : Setting → Bool
  | .name | .analyzed | .leading | .anywhere | .completing | .single | .range | .transform => false
  | .field | .combine | .exclude | .bound _ | .fields | .override | .labels | .catalog
  | .engine => true

/-- What a setting holds when nothing is configured.  The name has to be configured. -/
def default : Setting → Value
  | .analyzed | .leading | .anywhere | .completing | .single | .range => .bool false
  | .transform => .transform .identity
  | _ => .null

/-- Whether a setting has to be configured. -/
def required : Setting → Bool
  | .name => true
  | _ => false

/-! ## Reading -/

/-- A value read as what a setting holds. -/
def readValue (s : Setting) (v : Value) : Reading Value :=
  if s.optional && v.isNull then .ok .null else s.shape.read v

/-- What a configuration sets a setting to. -/
def read (es : Entries) (s : Setting) : Reading Value :=
  match s.spelling? es with
  | some k => (s.readValue (Entries.get es k)).under (.key k)
  | none => if s.required then .error [.atKey s.key .missing] else .ok s.default

/-- The issues of a setting in a configuration. -/
def issues (es : Entries) (s : Setting) : List Issue :=
  (s.read es).issues

end Setting

end Criteria
