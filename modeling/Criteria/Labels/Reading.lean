import Criteria.Labels.Labeller
import Criteria.Value.Reading
import Criteria.Value.Notes

/-! # Reading label options

Label options are read from a mapping with the keys `key`, `label` and `resolver`.

* `Labels.Options.read` — the options that a value describes, or the issues;
* `Labels.Options.ofValue`, `Labels.Options.ofArguments` — the options, or the fault;
* `Labels.strayKeys` — the keys of a mapping that are no options;
* `Labels.Options.checkAssignment` — whether something can be assigned to finished options.
-/

namespace Criteria.Labels

/-- The keys of label options. -/
def optionKeys : List String := ["key", "label", "resolver"]

/-- The keys of a mapping that are no label options, as texts. -/
def strayKeys (es : Entries) : List String :=
  (es.filter fun e => !optionKeys.any fun k => decide (e.1 = .str k)).map fun e => e.1.text

namespace Options

/-- The text at a key, which may be missing or null. -/
def readOptional (es : Entries) (key : String) : Reading (Option String) :=
  match Entries.get? es key with
  | none | some .null => .ok none
  | some v => (v.readText.under (.key key)).map some

/-- The name of a labeller in label options. -/
def readLabeller (es : Entries) : Reading String :=
  match Entries.get? es "resolver" with
  | none => .ok defaultLabeller
  | some v => v.readText.under (.key "resolver")

/-- The issues of a mapping read as label options. -/
def issues (es : Entries) : List Issue :=
  (readOptional es "key").issues ++ (readOptional es "label").issues ++ (readLabeller es).issues
    ++ Entries.strayIssues (fun k => optionKeys.contains k) es

/-- The label options that a mapping describes. -/
def readEntries (es : Entries) : Reading Options :=
  match issues es with
  | [] => .ok ⟨(readOptional es "key").getD none, (readOptional es "label").getD none,
      (readLabeller es).getD defaultLabeller⟩
  | found => .error found

/-- The label options that a value describes: a mapping of their members, or finished options. -/
def read : Value → Reading Options
  | .options o => .ok o
  | .map es => readEntries es
  | _ => .refuse (.notModel .labelOptions)

/-- The label options that a value describes, or the fault that it describes none. -/
def ofValue (v : Value) : Except Fault Options :=
  (read v).mapError (.misfit .labelOptions)

/-- The label options made from named arguments, or the fault that they make none. -/
def ofArguments : Value → Except Fault Options
  | .map es => ofValue (.map es)
  | _ => .error .wrongType

/-- Checks an assignment to finished options, which may only be notes. -/
def checkAssignment (name v : Value) : Except Fault Unit :=
  match name with
  | .str s =>
    if Notes.isName s then (Notes.check s v).mapError .misuse
    else .error (.misfit .labelOptions [.atKey s .frozen])
  | _ => .error .wrongType

end Options

end Criteria.Labels
