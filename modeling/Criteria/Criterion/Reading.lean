import Criteria.Criterion.Basic

/-! # Reading criteria

A criterion is read from the entries of a configuration.

* `Config.markSingle` — the configuration with the one setting that another one implies;
* `Config.issues` — everything that is wrong with the entries of a configuration;
* `Config.read` — the criterion that a configuration describes by itself;
* `Criterion.checkLabeller` — whether the labeller that a criterion names is in its catalog.

Unknown label options are reported before anything else, and all other issues together.
-/

namespace Criteria

/-- The name that makes a criterion single. -/
def keywordsName : String := "keywords"

namespace Config

/-- A configuration in which the name for keywords implies a single value. -/
def markSingle (es : Entries) : Entries :=
  if Entries.get? es Setting.name.key = some (.str keywordsName) then
    Entries.insert es Setting.single.key (.bool true)
  else
    es

/-- The keys of label options in a configuration that are not known. -/
def strayLabelKeys (es : Entries) : List String :=
  match Entries.get es Setting.labels.key with
  | .map options => Labels.strayKeys options
  | _ => []

/-- Whether a key is read from a configuration. -/
def knows (es : Entries) (k : String) : Bool :=
  k == valuesKey || Setting.all.any fun s => s.spellings.contains k && s.spelling? es == some k

/-- Everything that is wrong with the entries of a configuration. -/
def issues (es : Entries) : List Issue :=
  Setting.all.flatMap (Setting.issues es) ++ Entries.strayIssues (knows es) es

/-- The criterion with the values and settings of a configuration, faulty ones left out. -/
def contents (es : Entries) : Criterion where
  values := (Entries.get es valuesKey).items
  setting := fun s => (s.read es).getD s.default

/-- The criterion that the entries of a configuration describe by themselves. -/
def readEntries (es : Entries) : Except Fault Criterion :=
  if strayLabelKeys es ≠ [] then
    -- unknown label options are reported alone, whatever else is wrong
    .error (.strayLabelOptions (strayLabelKeys es) Labels.optionKeys)
  else
    match issues es with
    | [] => .ok (contents es)
    | found => .error (.misfit .criterion found)

/-- The criterion that a configuration describes by itself. -/
def read (es : Entries) : Except Fault Criterion :=
  readEntries (markSingle es)

end Config

namespace Criterion

/-- The label options of a criterion, if it has any. -/
def labelOptions? (c : Criterion) : Option Labels.Options :=
  match c.setting .labels with
  | .options o => some o
  | _ => none

/-- The name of the catalog that a criterion takes its labeller from; nothing when that setting
holds something else. -/
def catalogName? (c : Criterion) : Option String :=
  match c.setting .catalog with
  | .null => some Catalogs.standardName
  | .catalog name => some name
  | _ => none

/-- The catalog that a criterion takes its labeller from. -/
def catalog (cs : Catalogs) (c : Criterion) : Catalog :=
  cs.get (c.catalogName?.getD Catalogs.standardName)

/-- The catalog setting of a criterion, or else the standard catalog. -/
def catalogHandle (c : Criterion) : Value :=
  if (c.setting .catalog).isNull then .catalog Catalogs.standardName else c.setting .catalog

/-- Checks that the labeller a criterion names is in its catalog. -/
def checkLabeller (cs : Catalogs) (c : Criterion) : Except Fault Unit :=
  match c.labelOptions? with
  | some o => ((c.catalog cs).resolve o.labeller).map fun _ => ()
  | none => .ok ()

end Criterion

end Criteria
