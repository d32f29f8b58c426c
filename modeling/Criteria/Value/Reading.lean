import Criteria.Value.Written
import Criteria.Fault.Issue
import Criteria.Text.CloseMatches

/-! # Reading values

Values of a configuration read as something more definite, with the issues that keep them from it.

* `Reading` — what a value is read as, or the issues;
* `Value.readText`, `Value.readFlag`, `Value.readTexts`, `Value.readMap`, … — the readers;
* `Entries.strayIssues` — the issues of keys that nothing reads.

A flag may be written as a truth value, as zero or one, or as one of a dozen words in letters of
either case.
-/

namespace Criteria

/-- What a value is read as, or what is wrong with it. -/
abbrev Reading (α : Type) := Except (List Issue) α

namespace Reading

variable {α β : Type}

/-- The issues of a reading. -/
def issues : Reading α → List Issue
  | .ok _ => []
  | .error issues => issues

/-- A reading seen from one step further out. -/
def under (place : Place) : Reading α → Reading α
  | .ok a => .ok a
  | .error issues => .error (issues.map (Issue.under place))

/-- What was read, or a value in its place. -/
def getD (r : Reading α) (default : α) : α :=
  match r with
  | .ok a => a
  | .error _ => default

/-- A reading that fails with one issue of the whole value. -/
def refuse (kind : IssueKind) : Reading α :=
  .error [.here kind]

@[simp] theorem issues_ok (a : α) : issues (.ok a) = [] := rfl
@[simp] theorem getD_ok (a default : α) : getD (.ok a) default = a := rfl
@[simp] theorem under_ok (place : Place) (a : α) : under place (.ok a) = .ok a := rfl

end Reading

namespace Value

/-! ## Flags -/

/-- The words for a flag that is not set. -/
def noWords : List String := ["0", "off", "f", "false", "n", "no"]

/-- The words for a flag that is set. -/
def yesWords : List String := ["1", "on", "t", "true", "y", "yes"]

/-- Whether a text is one of some words, in letters of either case. -/
def isWordOf (words : List String) (s : String) : Bool :=
  words.any fun w => w.toList == s.toList.map Char.toLower

/-- The first integer that is too large for a word of sixty-four bits. -/
def wordLimit : Int := 9223372036854775808

/-- Whether an integer fits into a word of sixty-four bits. -/
def fitsWord (n : Int) : Bool :=
  decide (-wordLimit ≤ n) && decide (n < wordLimit)

/-- A number read as a flag. -/
def readNumberFlag (inWord : Bool) (n : Int) : Reading Bool :=
  if n = 0 then .ok false
  else if n = 1 then .ok true
  else if inWord then .refuse .unreadableFlag
  else .refuse .notFlag

/-- A value read as a flag. -/
def readFlag : Value → Reading Bool
  | .bool b => .ok b
  | .int n => readNumberFlag (fitsWord n) n
  | .float x => match x.integer? with
    | some n => readNumberFlag (decide (-wordLimit < n) && decide (n < wordLimit)) n
    | none => .refuse .notFlag
  | .str s =>
    if isWordOf noWords s then .ok false
    else if isWordOf yesWords s then .ok true
    else .refuse .unreadableFlag
  | _ => .refuse .notFlag

/-! ## Texts, mappings and handles -/

/-- A value read as a text. -/
def readText : Value → Reading String
  | .str s => .ok s
  | _ => .refuse .notText

/-- The issues of the items of a list of texts, the first of which has the given index. -/
def textIssues (index : Int) : List Value → List Issue
  | [] => []
  | v :: vs => (v.readText.under (.index index)).issues ++ textIssues (index + 1) vs

/-- The items of a value that may stand for a list: not those of a text or of a mapping. -/
def sequence? : Value → Option (List Value)
  | .str _ | .map _ => none
  | v => v.elements?

/-- A value read as a list of texts. -/
def readTexts (v : Value) : Reading (List Value) :=
  match v.sequence? with
  | some items => match textIssues 0 items with
    | [] => .ok items
    | issues => .error issues
  | none => .refuse .notSequence

/-- The text of a key that is one. -/
def keyText? : Value → Option String
  | .str s => some s
  | _ => none

/-- The step that a key stands for: an index if it is an integer of a word's size or a truth value,
and otherwise the key as it is written. -/
def place : Value → Place
  | .str s => .key s
  | .bool b => .index (if b then 1 else 0)
  | .int n => if fitsWord n then .index n else .key (toString n)
  | v => .key v.quoted

/-- The issues of a mapping whose keys have to be texts. -/
def keyIssues (es : Entries) : List Issue :=
  (es.filter fun e => e.1.keyText?.isNone).map fun e => ⟨.notText, [e.1.place, .key "[key]"]⟩

/-- A value read as a mapping from texts. -/
def readMap : Value → Reading Entries
  | .map entries => match keyIssues entries with
    | [] => .ok entries
    | issues => .error issues
  | _ => .refuse .notMapping

/-- A value read as a function on bounds. -/
def readTransform : Value → Reading Transform
  | .transform t => .ok t
  | _ => .refuse .notFunction

/-- A value read as a catalog of labellers. -/
def readCatalog : Value → Reading String
  | .catalog name => .ok name
  | _ => .refuse .notCatalog

end Value

namespace Entries

/-- The keys that are texts, in order. -/
def textKeys (es : Entries) : List String :=
  es.filterMap fun e => e.1.keyText?

/-- The issues of keys that nothing reads: those that are no texts, then, in code point order, those
that are not known. -/
def strayIssues (known : String → Bool) (es : Entries) : List Issue :=
  (es.filter fun e => e.1.keyText?.isNone).map (fun e => ⟨.keyNotText, [e.1.place]⟩)
    ++ (Text.sortWords (es.textKeys.filter fun k => !known k)).map fun k => .atKey k .unknownKey

end Entries

end Criteria
