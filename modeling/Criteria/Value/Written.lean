import Criteria.Value.Pairs
import Criteria.Text.Quoted

/-! # Written values

The text of a value.

* `Value.Wording` — the spellings of the constants; `Value.wording` holds the ones in use;
* `Value.quoted` — the form a value takes inside a list or a mapping;
* `Value.text` — the text of a value on its own, where a string stands for itself.
-/

namespace Criteria.Value

/-- The spellings of the constants in written values. -/
structure Wording where
  null : String
  yes : String
  no : String

/-- The constants are capitalised words. -/
def wording : Wording := ⟨"None", "True", "False"⟩

/-- The spelling of a truth value. -/
def boolText (b : Bool) : String :=
  if b then wording.yes else wording.no

/-- The spelling of a text that may be absent. -/
def optionalText : Option String → String
  | some s => Text.quoted s
  | none => wording.null

/-- The members of label options, each with its name. -/
def memberTexts (o : Labels.Options) : List String :=
  ["key=" ++ optionalText o.key, "label=" ++ optionalText o.label,
    "resolver=" ++ Text.quoted o.labeller]

/-- Texts between brackets, separated by commas. -/
def enclosed (opening closing : String) (parts : List String) : String :=
  opening ++ String.intercalate ", " parts ++ closing

/-- The items of a tuple between parentheses; a comma follows a single item. -/
def tupleText : List String → String
  | [part] => "(" ++ part ++ ",)"
  | parts => enclosed "(" ")" parts

mutual

/-- The form a value takes inside a list or a mapping. -/
def quoted : Value → String
  | .null => wording.null
  | .bool b => boolText b
  | .int n => toString n
  | .float x => x.text
  | .str s => Text.quoted s
  | .list items => enclosed "[" "]" (quotedItems items)
  | .tuple items => tupleText (quotedItems items)
  | .map entries => enclosed "\x7b" "\x7d" (quotedEntries entries)
  | .transform .identity => "<transform>"
  | .transform (.named name) => "<transform " ++ name ++ ">"
  | .catalog name => "<catalog " ++ name ++ ">"
  | .engine name => "<engine " ++ name ++ ">"
  | .options o => enclosed "LookupOptions(" ")" (memberTexts o)

/-- The forms of the items of a sequence. -/
def quotedItems : List Value → List String
  | [] => []
  | v :: vs => quoted v :: quotedItems vs

/-- The forms of the entries of a mapping. -/
def quotedEntries : List (Value × Value) → List String
  | [] => []
  | (k, v) :: es => (quoted k ++ ": " ++ quoted v) :: quotedEntries es

end

/-- The text of a value on its own. -/
def text : Value → String
  | .str s => s
  | .options o => String.intercalate " " (memberTexts o)
  | v => v.quoted

@[simp] theorem text_str (s : String) : text (.str s) = s := rfl

end Criteria.Value
