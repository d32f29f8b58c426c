import Criteria.Fault.Basic

/-! # Stock transforms

Ready-made functions for the bounds of a range, by name.

* `Stock.plus2` — adds two to a whole number or to the digits of a text;
* `Stock.transform` — all of them.
-/

namespace Criteria.Stock

/-- The integer that a text of digits with an optional minus sign denotes. -/
def integerOfText? (s : String) : Option Int :=
  let (negative, digits) := match s.toList with
    | '-' :: rest => (true, rest)
    | rest => (false, rest)
  if digits ≠ [] ∧ digits.all Char.isDigit then
    some (Decimal.signed negative (Decimal.natOfDigits digits))
  else
    none

/-- A whole number, or the digits of a text, plus two. -/
def plus2 : Value → Except Fault Value
  | .int n => .ok (.int (n + 2))
  | .str s => match integerOfText? s with
    | some n => .ok (.int (n + 2))
    | none => .error (.raised "bad bound")
  | _ => .error (.raised "bad bound")

/-- The stock transforms, by name. -/
def transform (name : String) (v : Value) : Except Fault Value :=
  match name with
  | "plus2" => plus2 v
  | "fail" => .error (.raised "transform failed")
  | "none" => .ok .null
  | "false" => .ok (.bool false)
  | "true" => .ok (.bool true)
  | "zero" => .ok (.int 0)
  | "pair" => .ok (.list [v, v])
  | "wrap" => .ok (.map [(.str "v", v)])
  | "drop5" => .ok (if v = .int 5 then .null else v)
  | _ => .ok v

end Criteria.Stock
