import Criteria.Criterion.Basic

/-! # Edits

Calls that configure a criterion step by step.

* `Edit` — the calls;
* `Write` — the change of one attribute;
* `Edit.writes` — the changes that a call makes, in order;
* `Criterion.edit`, `Criterion.editAll` — a criterion after one call or several;
* `Edit.ofCall` — the call with a name and arguments.

A call for a bound also makes the criterion a range, and bounds accumulate from call to call.
-/

namespace Criteria

/-- A call that configures a criterion. -/
inductive Edit where
  /-- Match a value. -/
  | equal (values : Value)
  /-- Match any of some values. -/
  | anyOf (values : Value)
  /-- Match all of some values. -/
  | allOf (values : Value)
  /-- Exclude some values. -/
  | noneOf (values : Value)
  /-- Match one of the variants of the field. -/
  | variant (form : Variant) (values : Value)
  /-- Give one end of a range. -/
  | bound (b : Bound) (value : Value)
  /-- Give both ends of a range, neither included. -/
  | between (low high : Value)
  /-- Give both ends of a range, both included. -/
  | fromTo (low high : Value)
deriving DecidableEq, Repr

/-- The change of one attribute of a criterion. -/
inductive Write where
  | values (v : Value)
  | setting (s : Setting) (v : Value)
deriving DecidableEq, Repr

namespace Criterion

/-- A criterion with one attribute changed. -/
def write (c : Criterion) : Write → Criterion
  | .values v => c.setValues v
  | .setting s v => c.set s v

/-- A criterion with several attributes changed, one after the other. -/
def writeAll (c : Criterion) (ws : List Write) : Criterion :=
  ws.foldl write c

@[simp] theorem writeAll_nil (c : Criterion) : c.writeAll [] = c := rfl

@[simp] theorem writeAll_cons (c : Criterion) (w : Write) (ws : List Write) :
    c.writeAll (w :: ws) = (c.write w).writeAll ws := rfl

theorem writeAll_append (c : Criterion) (ws ws' : List Write) :
    c.writeAll (ws ++ ws') = (c.writeAll ws).writeAll ws' := by
  simp [writeAll]

end Criterion

namespace Edit

/-- The changes that give one end of a range. -/
def boundWrites (b : Bound) (value : Value) : List Write :=
  [.setting .range (.bool true), .setting (.bound b) value]

/-- The changes that a call makes, in order. -/
def writes : Edit → List Write
  | .equal v => [.values v]
  | .anyOf v => [.setting .combine (.bool false), .values v]
  | .allOf v => [.setting .combine (.bool true), .values v]
  | .noneOf v => [.setting .exclude (.bool true), .values v]
  | .variant form v => [.setting form.setting (.bool true), .values v]
  | .bound b v => boundWrites b v
  | .between low high => boundWrites .above low ++ boundWrites .below high
  | .fromTo low high => boundWrites .atLeast low ++ boundWrites .atMost high

/-- The call with a name and arguments. -/
def ofCall (name : String) (arguments : List Value) : Except Misuse Edit :=
  match name, arguments with
  | "eq", [v] | "in_", [v] => .ok (.equal v)
  | "or_", [v] => .ok (.anyOf v)
  | "and_", [v] => .ok (.allOf v)
  | "not_", [v] => .ok (.noneOf v)
  | "starts_with", [v] => .ok (.variant .leading v)
  | "any_text", [v] => .ok (.variant .anywhere v)
  | "autocomplete", [v] => .ok (.variant .completing v)
  | "analyzed", [v] => .ok (.variant .analyzed v)
  | "gt", [v] => .ok (.bound .above v)
  | "gte", [v] => .ok (.bound .atLeast v)
  | "lt", [v] => .ok (.bound .below v)
  | "lte", [v] => .ok (.bound .atMost v)
  | "within", [low, high] => .ok (.between low high)
  | "within_eq", [low, high] => .ok (.fromTo low high)
  | name, _ =>
    if names.contains name then .error .wrongType else .error .missingMember
where
  /-- The names of calls. -/
  names : List String :=
    ["eq", "in_", "or_", "and_", "not_", "starts_with", "any_text", "autocomplete", "analyzed",
      "gt", "gte", "lt", "lte", "within", "within_eq"]

end Edit

namespace Criterion

/-- A criterion after a call. -/
def edit (c : Criterion) (e : Edit) : Criterion :=
  c.writeAll e.writes

/-- A criterion after several calls, one after the other. -/
def editAll (c : Criterion) (es : List Edit) : Criterion :=
  es.foldl edit c

/-- The changes of several calls are those of each call in turn. -/
theorem editAll_eq_writeAll (c : Criterion) (es : List Edit) :
    c.editAll es = c.writeAll (es.flatMap Edit.writes) := by
  induction es generalizing c with
  | nil => rfl
  | cons e es ih =>
    rw [List.flatMap_cons, writeAll_append, ← ih]
    rfl

end Criterion

end Criteria
