import Criteria.Fault.Basic

/-! # Catalogs of labellers

Which labellers there are, and under which names.

* `LabellerKind` — the kinds of labellers;
* `Catalog` — labellers by name, each name once;
* `Catalog.resolve` — the labeller with a name, or a fault that lists the names there are;
* `Catalogs` — the catalogs of a session by their own names.

Every name of a catalog stands for some catalog: one that was never written to is the built-in
one, which holds the text labeller alone.
-/

namespace Criteria

/-- A kind of labeller. -/
inductive LabellerKind where
  /-- Labels are found by a search. -/
  | text
  /-- The bare interface, of which no labeller can be made. -/
  | abstract
  /-- A kind that the host brings. -/
  | custom (name : String)
deriving DecidableEq, Repr

/-- Labellers by name. -/
structure Catalog where
  entries : List (String × LabellerKind)
  nodup : (entries.map (·.1)).Nodup := by decide
deriving DecidableEq, Repr

namespace Catalog

/-- The catalog without labellers. -/
def empty : Catalog := ⟨[], List.nodup_nil⟩

/-- The catalog that holds the default labeller. -/
def builtIn : Catalog := ⟨[(Labels.defaultLabeller, .text)], by simp⟩

/-- The labeller with a name. -/
def get? (c : Catalog) (name : String) : Option LabellerKind :=
  (c.entries.find? fun e => e.1 == name).map (·.2)

/-- Whether there is a labeller with a name. -/
def has (c : Catalog) (name : String) : Bool :=
  c.entries.any fun e => e.1 == name

/-- The names of the labellers, in code point order. -/
def names (c : Catalog) : List String :=
  Text.sortWords (c.entries.map (·.1))

/-- The catalog without the labeller of a name. -/
def erase (c : Catalog) (name : String) : Catalog where
  entries := c.entries.filter fun e => e.1 != name
  nodup := (List.filter_sublist.map _).nodup c.nodup

/-- The catalog with a labeller put under a name, in place of the one that had it. -/
def insert (c : Catalog) (name : String) (kind : LabellerKind) : Catalog where
  entries := (name, kind) :: (c.erase name).entries
  nodup := by
    rw [List.map_cons, List.nodup_cons]
    refine ⟨?_, (c.erase name).nodup⟩
    simp [erase]

/-- The catalog of some named labellers; of two with one name the later one stays. -/
def ofList (entries : List (String × LabellerKind)) : Catalog :=
  entries.foldl (fun c e => c.insert e.1 e.2) empty

/-- The labeller with a name, or the fault that it is not known. -/
def resolve (c : Catalog) (name : String) : Except Fault LabellerKind :=
  match c.get? name with
  | some kind => .ok kind
  | none => .error (.noSuchLabeller (.str name) (c.entries.map (·.1)))

/-! ## What insertion and removal do to a name -/

theorem has_eq_isSome (c : Catalog) (name : String) : c.has name = (c.get? name).isSome := by
  rw [Bool.eq_iff_iff, has, get?, Option.isSome_map, List.find?_isSome, List.any_eq_true]

theorem get?_erase (c : Catalog) (name other : String) :
    (c.erase name).get? other = if other = name then none else c.get? other := by
  simp only [get?, erase, List.find?_filter]
  split
  next h =>
    subst h
    simp
  next h =>
    congr 2
    funext e
    by_cases same : e.1 = other <;> simp [same, h]

theorem get?_insert (c : Catalog) (name : String) (kind : LabellerKind) (other : String) :
    (c.insert name kind).get? other = if other = name then some kind else c.get? other := by
  by_cases h : other = name
  · simp [get?, insert, h]
  · have := get?_erase c name other
    simp only [h, ↓reduceIte] at this ⊢
    rw [← this]
    simp [get?, insert, Ne.symm h]

theorem mem_names (c : Catalog) (name : String) : name ∈ c.names ↔ c.has name = true := by
  simp [names, Text.sortWords, has]

end Catalog

/-- The catalogs of a session, by name. -/
structure Catalogs where
  get : String → Catalog

namespace Catalogs

/-- The name of the catalog used by criteria that carry none. -/
def standardName : String := "default"

/-- The catalogs of a new session. -/
def initial : Catalogs := ⟨fun _ => .builtIn⟩

/-- The catalogs with one of them replaced. -/
def set (cs : Catalogs) (name : String) (c : Catalog) : Catalogs :=
  ⟨fun other => if other = name then c else cs.get other⟩

/-- The catalogs with one of them changed. -/
def modify (cs : Catalogs) (name : String) (f : Catalog → Catalog) : Catalogs :=
  cs.set name (f (cs.get name))

/-- The catalogs of a new session with some named ones; the standard one is always built in. -/
def ofList (catalogs : List (String × Catalog)) : Catalogs :=
  (catalogs.foldl (fun cs e => cs.set e.1 e.2) initial).set standardName .builtIn

@[simp] theorem get_set (cs : Catalogs) (name other : String) (c : Catalog) :
    (cs.set name c).get other = if other = name then c else cs.get other := rfl

@[simp] theorem get_modify (cs : Catalogs) (name other : String) (f : Catalog → Catalog) :
    (cs.modify name f).get other = if other = name then f (cs.get name) else cs.get other := rfl

end Catalogs

end Criteria
