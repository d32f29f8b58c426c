import Criteria.Value.Entries

/-! # Entries at texts

A configuration is read at keys that are texts.  So all that a reading can see of its entries is the
value at each text, and whether there are keys of another kind.

* `Entries.Agree` — entries with the same value at every text;
* `Entries.Textual` — entries whose keys are all texts.

`textual_overlay` and `textual_erase` say how the changes of a mapping act on the kinds of its keys;
how they act on the values is said beside the changes themselves.
-/

namespace Criteria

theorem Value.sameKey_str_iff {a : Value} {k : String} :
    a.sameKey (.str k) = true ↔ a = .str k := by
  constructor
  · intro same
    have form := Value.keyForm_eq_of_sameKey same
    rw [Value.keyForm_str] at form
    cases a with
    | str s => simpa using form
    | float x =>
      simp only [Value.keyForm] at form
      split at form <;> cases form
    | tuple items => simp only [Value.keyForm] at form; cases form
    | bool b => simp only [Value.keyForm] at form; cases form
    | _ => cases form
  · rintro rfl
    simp

namespace Entries

/-! ## Agreement -/

def Agree (es fs : Entries) : Prop :=
  ∀ k : String, get? es (.str k) = get? fs (.str k)

theorem Agree.get {es fs : Entries} (agree : Agree es fs) (k : String) :
    get es (.str k) = get fs (.str k) := by
  rw [Entries.get, agree k, Entries.get]

theorem Agree.hasKey {es fs : Entries} (agree : Agree es fs) (k : String) :
    hasKey es (.str k) = hasKey fs (.str k) := by
  rw [← isSome_get?, ← isSome_get?, agree k]

theorem Agree.insert {es fs : Entries} (agree : Agree es fs) (key v : Value) :
    Agree (insert es key v) (insert fs key v) := by
  intro k
  rw [get?_insert, get?_insert, agree k]

theorem get?_insert_of_ne {es : Entries} {k k' : String} (v : Value) (differ : k ≠ k') :
    get? (insert es (.str k) v) (.str k') = get? es (.str k') := by
  simp [get?_insert, differ]

theorem get_insert_of_ne {es : Entries} {k k' : String} (v : Value) (differ : k ≠ k') :
    get (insert es (.str k) v) (.str k') = get es (.str k') := by
  rw [get, get?_insert_of_ne v differ, get]

theorem get_eq_of_get? {es : Entries} {key v : Value} (found : get? es key = some v) :
    get es key = v := by
  rw [get, found]
  rfl

/-! ## Keys that are texts -/

def Textual (es : Entries) : Prop :=
  ∀ e ∈ es, ∃ k : String, e.1 = .str k

theorem textual_erase {es : Entries} (textual : Textual es) (key : Value) :
    Textual (erase es key) := by
  intro e member
  exact textual e (List.mem_filter.1 member).1

theorem textual_overlay {base upper : Entries} :
    Textual (overlay base upper) ↔ Textual base ∧ Textual upper := by
  constructor
  · intro textual
    have lower : Textual base := by
      intro e member
      have kept : (e.1, (get? upper e.1).getD e.2) ∈ overlay base upper :=
        List.mem_append_left _ (List.mem_map.2 ⟨e, member, rfl⟩)
      obtain ⟨k, isText⟩ := textual _ kept
      exact ⟨k, isText⟩
    refine ⟨lower, ?_⟩
    intro e member
    cases inBase : hasKey base e.1 with
    | true =>
      -- a key of the base is a text, and a key that is the same as a text is that text
      obtain ⟨b, inside, same⟩ := List.any_eq_true.1 inBase
      obtain ⟨k, isText⟩ := lower b inside
      rw [isText, Value.sameKey_comm] at same
      exact ⟨k, Value.sameKey_str_iff.1 same⟩
    | false =>
      apply textual
      apply List.mem_append_right
      exact List.mem_filter.2 ⟨member, by simp [inBase]⟩
  · rintro ⟨lower, above⟩ e member
    rcases List.mem_append.1 member with kept | added
    · obtain ⟨b, inside, rfl⟩ := List.mem_map.1 kept
      exact lower b inside
    · exact above e (List.mem_filter.1 added).1

theorem textual_insert {es : Entries} {k : String} {v : Value} :
    Textual (insert es (.str k) v) ↔ Textual es := by
  rw [insert, textual_overlay]
  constructor
  · exact And.left
  · intro textual
    refine ⟨textual, ?_⟩
    intro e member
    rw [List.mem_singleton.1 member]
    exact ⟨k, rfl⟩

/-! ## Keys after a change -/

theorem keys_overlay (base upper : Entries) :
    keys (overlay base upper) =
      keys base ++ (keys upper).filter fun key => !(keys base).any fun k => k.sameKey key := by
  simp only [keys, overlay, List.map_append, List.map_map, List.filter_map, Function.comp_def,
    hasKey, List.any_map]

theorem mem_keys_insert {es : Entries} {key k v : Value} (member : k ∈ keys (insert es key v)) :
    k ∈ keys es ∨ k = key := by
  rw [insert, keys_overlay] at member
  rcases List.mem_append.1 member with kept | added
  · exact .inl kept
  · exact .inr (List.mem_singleton.1 (List.mem_filter.1 added).1)

theorem hasKey_str_iff {es : Entries} {k : String} :
    hasKey es (.str k) = true ↔ .str k ∈ keys es := by
  rw [hasKey, List.any_eq_true, keys, List.mem_map]
  simp only [Value.sameKey_str_iff]

/-- An entry that is laid over itself changes nothing. -/
theorem insert_insert_str (es : Entries) (k : String) (v : Value) :
    insert (insert es k v) k v = insert es k v := by
  have present : hasKey (insert es k v) k = true := by
    rw [← isSome_get?, get?_insert_str]
    rfl
  have fixed : ∀ e ∈ insert es k v, (e.1, (get? [(.str k, v)] e.1).getD e.2) = e := by
    intro e member
    rcases List.mem_append.1 member with member | member
    · obtain ⟨e', _, rfl⟩ := List.mem_map.1 member
      cases get? [(.str k, v)] e'.1 <;> rfl
    · obtain rfl := List.mem_singleton.1 (List.mem_filter.1 member).1
      simp [get?_cons]
  rw [insert, overlay, List.map_congr_left fixed, List.map_id'', List.filter_eq_nil_iff.2]
  · exact List.append_nil _
  · intro e member
    rw [List.mem_singleton.1 member, present]
    exact Bool.false_ne_true
  · exact fun _ => rfl

end Entries

end Criteria
