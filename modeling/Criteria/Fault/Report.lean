import Criteria.Fault.Basic
import Criteria.Value.Written
import Criteria.Value.Order

/-! # Reports of faults

What a fault says.

* `Fault.message?` — the message of a fault that has one;
* `Fault.details?` — the details of a fault of the family;
* `Fault.attributes` — what a fault of the family was made from;
* `Fault.report` — the report of any fault;
* `Fault.make` — a fault of the family made from arguments.

Names that are not known are reported together with close matches among the known ones.
-/

namespace Criteria

namespace Misuse

/-- The name of a misuse in reports. -/
def name : Misuse → String
  | .wrongType => "TypeError"
  | .badValue => "ValueError"
  | .missingKey => "KeyError"
  | .missingMember => "AttributeError"

end Misuse

namespace Place

/-- A step of a path in reports. -/
def report : Place → Value
  | .key name => .str name
  | .index n => .int n

end Place

namespace Issue

/-- The report of an issue. -/
def report (issue : Issue) : Value :=
  .map [(.str "type", .str issue.kind.code), (.str "loc", .list (issue.path.map Place.report)),
    (.str "msg", .str issue.kind.message)]

end Issue

namespace LabellingProblem

/-- What a labelling problem says. -/
def message : LabellingProblem → Value
  | .noEngine => .str "Text lookup requires a search context to query labels"
  | .countMismatch labeller returned expected =>
    .str (labeller ++ " returned " ++ toString returned ++ " entries for " ++ toString expected
      ++ " values")
  | .stated message => message

end LabellingProblem

namespace Fault

/-! ## Messages -/

/-- Words separated by commas. -/
def commaSeparated (words : List String) : String :=
  String.intercalate ", " words

/-- The closest valid option to an unknown one, if any comes close. -/
def optionMatches (valid : List String) (key : String) : List String :=
  Text.closeMatches 1 (Text.spelling key) valid

/-- The closest known labellers to an unknown one. -/
def labellerMatches (known : List String) (name : Value) : List String :=
  Text.closeMatches 3 name.spelling known

/-- The hints that a message about unknown options gives, one for each option with a match. -/
def optionHints (invalid valid : List String) : List String :=
  invalid.eraseDups.filterMap fun key =>
    (optionMatches valid key).head?.map fun found => "'" ++ key ++ "' -> '" ++ found ++ "'"

/-- The question whether one of some suggestions was meant; nothing when there are none. -/
def question (suggestions : List String) : String :=
  if suggestions.isEmpty then "" else " Did you mean: " ++ commaSeparated suggestions ++ "?"

/-- Names separated by commas, or a mark where there would be nothing to see. -/
def namesOrMark (names : List String) : String :=
  if commaSeparated names = "" then "<none>" else commaSeparated names

/-- The message of a fault with arguments of its own: the argument, or all of them. -/
def argumentText : List Value → String
  | [] => ""
  | [argument] => argument.text
  | arguments => (Value.tuple arguments).text

/-- The message of a fault, for all but misfits of a configuration and misuses. -/
def message? : Fault → Option String
  | .general arguments => some (argumentText arguments)
  | .configuration arguments => some (argumentText arguments)
  | .labelOptions invalid valid =>
    some ("Unknown lookup option(s): " ++ commaSeparated invalid ++ "."
      ++ question (optionHints invalid valid)
      ++ " Valid options: " ++ commaSeparated valid)
  | .unknownLabeller name known =>
    some ("Unknown lookup resolver: '" ++ name.text ++ "'."
      ++ question (labellerMatches known name)
      ++ " Registered resolvers: " ++ namesOrMark known)
  | .labelling problem _ => some problem.message.text
  | .raised message => some message
  | .misfit _ _ | .misuse _ => none

/-! ## Details -/

/-- A list of words as a value. -/
def wordList (words : List String) : Value :=
  .list (words.map .str)

/-- The close matches of each unknown option. -/
def optionSuggestions (invalid valid : List String) : Value :=
  .map (invalid.eraseDups.map fun key => (.str key, wordList (optionMatches valid key)))

/-- The details of a fault of the family. -/
def details? (f : Fault) : Option Value :=
  match f with
  | .general _ | .configuration _ =>
    f.family?.map fun family =>
      .map [(.str "error", .str family.name), (.str "message", .str (f.message?.getD ""))]
  | .labelOptions invalid valid =>
    some (.map [(.str "error", .str "INVALID_LOOKUP_OPTION"),
      (.str "invalid_keys", wordList invalid),
      (.str "suggestions", optionSuggestions invalid valid), (.str "valid_keys", wordList valid)])
  | .unknownLabeller name known =>
    some (.map [(.str "error", .str "RESOLVER_NOT_FOUND"), (.str "resolver", name),
      (.str "suggestions", wordList (labellerMatches known name)),
      (.str "available", wordList known)])
  | .labelling problem criterion =>
    some (.map [(.str "error", .str "LOOKUP_RESOLUTION_ERROR"), (.str "message", problem.message),
      (.str "condition", criterion)])
  | .misfit _ _ | .raised _ | .misuse _ => none

/-- What a fault of the family was made from, and what it suggests. -/
def attributes : Fault → Entries
  | .labelOptions invalid valid =>
    [(.str "invalid_keys", wordList invalid), (.str "valid_keys", wordList valid),
      (.str "suggestions", optionSuggestions invalid valid)]
  | .unknownLabeller name known =>
    [(.str "name", name), (.str "available", wordList known),
      (.str "suggestions", wordList (labellerMatches known name))]
  | .labelling problem criterion =>
    [(.str "message", problem.message), (.str "condition_name", criterion)]
  | _ => []

/-! ## Reports -/

/-- The name of a fault. -/
def name : Fault → String
  | .general _ => Family.general.name
  | .configuration _ => Family.configuration.name
  | .labelOptions _ _ => Family.labelOptions.name
  | .unknownLabeller _ _ => Family.unknownLabeller.name
  | .labelling _ _ => Family.labelling.name
  | .misfit _ _ => "ValidationError"
  | .raised _ => "RuntimeError"
  | .misuse why => why.name

/-- An entry that is there only if its value is. -/
def optionalEntry (key : String) (value : Option Value) : Entries :=
  (value.map fun v => (.str key, v)).toList

/-- The model and the issues of a configuration that does not fit. -/
def misfitReport : Fault → Entries
  | .misfit model issues =>
    [(.str "model", .str model.name), (.str "errors", .list (issues.map Issue.report))]
  | _ => []

/-- The report of a fault: its name, and its message, details or issues. -/
def report (f : Fault) : Entries :=
  (.str "error", .str f.name)
    :: (optionalEntry "message" (f.message?.map .str) ++ optionalEntry "details" f.details?
      ++ f.misfitReport)

/-- The report of a fault of the family with its attributes and the branches it belongs to. -/
def fullReport (f : Fault) : Entries :=
  f.report
    ++ match f.family? with
      | some family =>
        [(.str "attributes", .map f.attributes),
          (.str "bases", wordList (Text.sortWords (family.bases.map Family.name)))]
      | none => []

/-! ## Making faults -/

/-- The texts among some values, if they are all texts. -/
def words? : List Value → Option (List String)
  | [] => some []
  | .str s :: vs => (words? vs).map (s :: ·)
  | _ :: _ => none

/-- Checks that some words can be compared with some candidates, one after the other. -/
def checkComparisons (sought candidates : List Value) : Except Misuse Unit :=
  sought.forM fun word => candidates.forM word.checkAgainst

/-- The elements of a value as texts.  Elements that are no texts are put in order and compared with
the words that are sought first, which may fail in ways of its own. -/
def readKnown (sought : List Value) (known : Value) : Except Misuse (List String) := do
  let some elements := known.elements? | .error .wrongType
  match words? elements with
  | some words => return words
  | none =>
    checkComparisons sought (← Value.sort elements)
    .error .wrongType

/-- The fault of label options with unknown keys, made from two values that list keys. -/
def makeLabelOptions (invalid valid : Value) : Except Misuse Fault := do
  let some elements := invalid.elements? | .error .wrongType
  let keys := elements.map Value.text
  return strayLabelOptions keys (← readKnown ((Text.sortWords keys).map .str) valid)

/-- The fault of an unknown labeller, made from a value that is sought and one that lists names. -/
def makeUnknownLabeller (name known : Value) : Except Misuse Fault := do
  name.checkWord
  let words ← readKnown [name] known
  checkComparisons [name] ((Text.sortWords words).map .str)
  return noSuchLabeller name words

/-- A fault of a branch of the family, made from arguments. -/
def make : Family → List Value → Except Misuse Fault
  | .general, arguments => .ok (.general arguments)
  | .configuration, arguments => .ok (.configuration arguments)
  | .labelOptions, [invalid, valid] => makeLabelOptions invalid valid
  | .unknownLabeller, [name, known] => makeUnknownLabeller name known
  | .labelling, [message] => .ok (.labelling (.stated message) .null)
  | .labelling, [message, criterion] => .ok (.labelling (.stated message) criterion)
  | _, _ => .error .wrongType

end Fault

end Criteria
