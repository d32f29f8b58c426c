import Criteria.Proofs.Labels.Atomicity
import Criteria.Proofs.Labels.Labellers
import Criteria.Stock.Host

/-! # Labelling again

A labelling that succeeds puts a label on every entry that needs one, but what it puts there is null
when no document has the key, and a document may give an empty label.  Such an entry still lacks its
label.

* `Labels.withLabel` — an entry with the label that some documents give it;
* `Run.Searches` — runs that make a search;
* `Criterion.label_again` — when the calls after a successful one do nothing.

The engine is asked again, with the same answers to the same clauses, as long as some entry lacks
its label, and never afterwards.
-/

namespace Criteria

namespace Run

variable {α β : Type}

/-! ## Runs that search -/

def Searches (run : Run α) : Prop :=
  run.searches ≠ []

theorem searches_bind_of_ok {x : Run α} {a : α} (done : x.outcome = .ok a) (f : α → Run β) :
    (x >>= f).searches = x.searches ++ (f a).searches := by
  rw [bind_of_ok done, searches, List.filterMap_append]
  rfl

theorem Searches.bind {x : Run α} (first : x.Searches) (f : α → Run β) : (x >>= f).Searches := by
  cases done : x.outcome with
  | ok a =>
    intro none
    rw [searches_bind_of_ok done] at none
    exact first (List.append_eq_nil_iff.1 none).1
  | error fault =>
    rw [bind_of_error done]
    exact first

theorem Searches.of_next {x : Run α} {a : α} {f : α → Run β} (done : x.outcome = .ok a)
    (next : (f a).Searches) : (x >>= f).Searches := by
  intro none
  rw [searches_bind_of_ok done] at none
  exact next (List.append_eq_nil_iff.1 none).2

end Run

open Run

namespace Labels

/-! ## The labels that are put on -/

/-- An entry with the label that some documents give its key, if it needs one. -/
def withLabel (l : Labeller) (found : List Entries) (es : Entries) : Entries :=
  if lacksLabel es then Entries.insert es labelName (find l found (Entries.get es keyName)) else es

theorem lacksLabel_withLabel (l : Labeller) (found : List Entries) (es : Entries) :
    lacksLabel (withLabel l found es) = true ↔
      lacksLabel es = true ∧ (find l found (Entries.get es keyName)).truthy = false := by
  unfold withLabel
  split
  next needed =>
    rw [lacksLabel, Entries.get_insert_str, Bool.not_eq_true']
    exact ⟨fun empty => ⟨needed, empty⟩, And.right⟩
  next labelled =>
    exact ⟨fun needed => absurd needed labelled, fun needed => absurd needed.1 labelled⟩

theorem outcome_labelEntry (l : Labeller) (found : List Entries) (es : Entries) :
    (labelEntry l found es).outcome = .ok (withLabel l found es) := by
  unfold labelEntry withLabel
  split
  · dsimp only
    split <;> rfl
  · rfl

theorem outcome_labelEntries (l : Labeller) (found entries : List Entries) :
    (labelEntries l found entries).outcome = .ok ((entries.map (withLabel l found)).map .map) := by
  induction entries with
  | nil => rfl
  | cons es entries inductionHypothesis =>
    rw [labelEntries, outcome_bind, outcome_labelEntry, Except.bind, outcome_bind,
      inductionHypothesis]
    rfl

theorem missingKeys_eq_nil {entries : List Entries} :
    missingKeys entries = [] ↔ entries.any lacksLabel = false := by
  rw [missingKeys, List.map_eq_nil_iff, List.filter_eq_nil_iff, List.any_eq_false]

theorem loadTexts_of_missing {host : Host} {cs : Catalogs} {l : Labeller} {entries : List Entries}
    {loaded : List Value} (missing : entries.any lacksLabel = true)
    (done : (loadTexts host cs l (entries.map .map)).outcome = .ok loaded) :
    ∃ found, (documents host cs l (missingKeys entries)).outcome = .ok found ∧
      loaded = (entries.map (withLabel l found)).map .map := by
  have searched : missingKeys entries ≠ [] := fun none => by
    rw [missingKeys_eq_nil.1 none] at missing
    cases missing
  rw [loadTexts, spreadAll_map, ofExcept_ok_bind, if_neg searched, outcome_bind] at done
  obtain ⟨found, documents, labelled⟩ := Outcome.bind_eq_ok.1 done
  rw [outcome_labelEntries] at labelled
  exact ⟨found, documents, (Except.ok.inj labelled).symm⟩

/-! ## The next search -/

/-- Where documents were found for some keys, a search is made for any others. -/
theorem documents_searches_again {host : Host} {cs : Catalogs} {l : Labeller} {keys : List Value}
    {found : List Entries} (done : (documents host cs l keys).outcome = .ok found)
    (keys' : List Value) : (documents host cs l keys').Searches := by
  unfold documents at done ⊢
  split at done
  · cases done
  next isEngine =>
    rw [if_neg isEngine]
    rw [outcome_bind] at done
    obtain ⟨c, made, done⟩ := Outcome.bind_eq_ok.1 done
    rw [outcome_bind] at done
    obtain ⟨clause, _, done⟩ := Outcome.bind_eq_ok.1 done
    rw [outcome_bind] at done
    obtain ⟨_, searched, _⟩ := Outcome.bind_eq_ok.1 done
    obtain ⟨name, engine⟩ : ∃ name, l.engine = .engine name := by
      unfold search at searched
      split at searched
      next name engine => exact ⟨name, engine⟩
      next => cases searched
    -- the query for other keys differs in its values alone
    have made' : ∃ c', query cs l.keyField keys' = .ok c' := by
      rw [ofExcept_outcome, query_eq_read] at made
      have same := Config.sameSettings_insert_values
        [(.str Setting.name.key, l.keyField)] (.list keys) (.list keys')
      have reads := Config.read_of_sameSettings same
      rw [query_eq_read]
      exact ⟨_, reads.trans (congrArg _ made)⟩
    obtain ⟨c', made'⟩ := made'
    obtain ⟨clause', compiled⟩ := query_compiles made' host
    rw [made', ofExcept_ok_bind]
    refine Searches.of_next compiled (Searches.bind ?_ _)
    rw [search, engine]
    have noted : (Run.note (.searched name clause')).Searches := List.cons_ne_nil _ _
    exact noted.bind _

end Labels

/-! ## Labelling a second time -/

theorem Session.keep_of_isThere {s : Session} {id : String} {c : Criterion}
    (isThere : s.criteria id = some c) : s.keep id (some c) = s := by
  obtain ⟨catalogs, criteria⟩ := s
  refine congrArg (Session.mk catalogs) (funext fun other => ?_)
  split
  next same => rw [same, ← isThere]
  next => rfl

namespace Criterion

variable {host : Host} {cs : Catalogs} {c : Criterion}

theorem needsLabels_of_map {entries : List Entries} (values : c.values = entries.map .map) :
    c.needsLabels = entries.any Labels.lacksLabel := by
  rw [needsLabels, values]
  cases entries with
  | nil => rfl
  | cons es entries =>
    rw [List.any_map]
    rfl

theorem label_of_missing {entries : List Entries} (values : c.values = entries.map .map)
    (text : ∀ l, (c.labeller host cs).outcome = .ok l → l.kind = .text)
    (missing : entries.any Labels.lacksLabel = true) {replaced : Bool}
    (succeeded : (c.label host cs).2.outcome = .ok replaced) :
    replaced = true ∧ ∃ l found, (c.labeller host cs).outcome = .ok l ∧
      (Labels.documents host cs l (Labels.missingKeys entries)).outcome = .ok found ∧
      (c.label host cs).1.values = (entries.map (Labels.withLabel l found)).map .map := by
  have ends := c.labelsTo_label host cs
  generalize c.label host cs = result at ends succeeded
  cases ends with
  | kept labelled =>
    rw [needsLabels_of_map values, missing] at labelled
    cases labelled
  | unmade | failed | miscounted => cases succeeded
  | @replaced l loading loaded _ made handed loads =>
    rw [Labeller.load_text (text l made), values] at handed
    subst handed
    obtain ⟨found, done, labelled⟩ := Labels.loadTexts_of_missing missing loads
    exact ⟨(Except.ok.inj succeeded).symm, l, found, made, done, labelled⟩

/-- A labelling makes a search if entries lack their labels and an earlier one found documents. -/
theorem label_searches_again {entries : List Entries} {l : Labeller} {keys : List Value}
    {found : List Entries} (values : c.values = entries.map .map)
    (made : (c.labeller host cs).outcome = .ok l) (text : l.kind = .text)
    (missing : entries.any Labels.lacksLabel = true)
    (done : (Labels.documents host cs l keys).outcome = .ok found) :
    (c.label host cs).2.searches.length = 1 := by
  have handed := Labeller.load_text text host cs c.values
  have loads : (Labels.loadTexts host cs l c.values).Searches := by
    have searched : Labels.missingKeys entries ≠ [] := fun none => by
      rw [Labels.missingKeys_eq_nil.1 none] at missing
      cases missing
    rw [values, Labels.loadTexts, Labels.spreadAll_map, ofExcept_ok_bind, if_neg searched]
    exact (Labels.documents_searches_again done _).bind _
  have log : (c.label host cs).2.log = (Labels.loadTexts host cs l c.values).log := by
    rw [log_label_of_made (needsLabels_of_map values ▸ missing) made handed,
      labeller_of_builtIn made (Labeller.not_isCustom_of_text text), List.nil_append]
  have searches : (c.label host cs).2.searches = (Labels.loadTexts host cs l c.values).searches :=
    congrArg (List.filterMap Event.search?) log
  have atMost : (Labels.loadTexts host cs l c.values).searches.length ≤ 1 :=
    Labels.loadTexts_searches host cs l c.values
  rw [searches]
  exact Nat.le_antisymm atMost (List.length_pos_iff.2 loads)

theorem run_label_of_labelled (labelled : c.needsLabels = false) (host : Host) {s : Session}
    {id : String} (isThere : s.criteria id = some c) (n : Nat) :
    s.run host (List.replicate n (.label id))
      = (s, List.replicate n (.labelled ⟨[], .ok false⟩ c.values)) := by
  have same : s.keep id (some c) = s := s.keep_of_isThere isThere
  induction n with
  | zero => rfl
  | succ n inductionHypothesis =>
    have step : s.step host (.label id) = (s, .labelled ⟨[], .ok false⟩ c.values) := by
      rw [Session.step, Session.withCriterion, isThere]
      dsimp only
      rw [label_of_labelled labelled, same]
    rw [List.replicate_succ, Session.run, step]
    dsimp only
    rw [inductionHypothesis]
    rfl

/-- A labelling by the text labeller that succeeds puts the labels it finds on the entries that need
one.  If all of them are labels, all further calls do nothing and make no search.  If one of them is
none, or is empty, the entry still lacks its label, and the next call makes a search again. -/
theorem label_again {host : Host} {cs : Catalogs} {c : Criterion}
    (maps : ∀ v ∈ c.values, v.isMap = true)
    (text : ∀ l, (c.labeller host cs).outcome = .ok l → l.kind = .text) {replaced : Bool}
    (succeeded : (c.label host cs).2.outcome = .ok replaced) :
    let c' := (c.label host cs).1
    (replaced = false → c' = c ∧ c.needsLabels = false) ∧
    (replaced = true → ∃ l entries found, (c.labeller host cs).outcome = .ok l ∧
      c.values = entries.map .map ∧
      (Labels.documents host cs l (Labels.missingKeys entries)).outcome = .ok found ∧
      c'.values = (entries.map (Labels.withLabel l found)).map .map ∧
      (c'.needsLabels = true ↔ ∃ es ∈ entries, Labels.lacksLabel es = true ∧
        (Labels.find l found (Entries.get es Labels.keyName)).truthy = false)) ∧
    (c'.needsLabels = false → ∀ (s : Session) (id : String) (n : Nat),
      s.criteria id = some c' →
        s.run host (List.replicate n (.label id))
          = (s, List.replicate n (.labelled ⟨[], .ok false⟩ c'.values))) ∧
    (c'.needsLabels = true →
      (c'.label host cs).2.outcome ≠ .ok false ∧
        (c'.label host cs).2.searches.length = 1) := by
  intro c'
  obtain ⟨entries, values⟩ := Labels.exists_map_of_isMap maps
  have settled (labelled : c'.needsLabels = false) (s : Session) (id : String) (n : Nat)
      (isThere : s.criteria id = some c') :
      s.run host (List.replicate n (.label id))
        = (s, List.replicate n (.labelled ⟨[], .ok false⟩ c'.values)) :=
    run_label_of_labelled labelled host isThere n
  cases missing : entries.any Labels.lacksLabel with
  | false =>
    -- nothing was needed, and nothing was done
    have labelled : c.needsLabels = false := (needsLabels_of_map values).trans missing
    have kept := label_of_labelled labelled host cs
    have same : c' = c := congrArg Prod.fst kept
    rw [kept] at succeeded
    obtain rfl : false = replaced := Except.ok.inj succeeded
    refine ⟨fun _ => ⟨same, labelled⟩, nofun, settled, fun needed => ?_⟩
    rw [same, labelled] at needed
    cases needed
  | true =>
    obtain ⟨rfl, l, found, made, done, labels⟩ := label_of_missing values text missing succeeded
    -- labels leave the settings alone, so the next call has the same labeller
    have made' (l' : Labeller) :
        (c'.labeller host cs).outcome = .ok l' ↔ (c.labeller host cs).outcome = .ok l' := by
      rw [show c'.labeller host cs = _ from c.labeller_change host cs (.label host cs)]
    have needed_iff : c'.needsLabels = true ↔ ∃ es ∈ entries, Labels.lacksLabel es = true ∧
        (Labels.find l found (Entries.get es Labels.keyName)).truthy = false := by
      rw [needsLabels_of_map labels, List.any_map, List.any_eq_true]
      simp only [Function.comp, Labels.lacksLabel_withLabel]
    refine ⟨nofun, fun _ => ⟨l, entries, found, made, values, done, labels, needed_iff⟩, settled,
      fun needed => ?_⟩
    rw [needsLabels_of_map labels] at needed
    refine ⟨fun again => ?_, ?_⟩
    · have text' (l' : Labeller) (isMade : (c'.labeller host cs).outcome = .ok l') :=
        text l' ((made' l').1 isMade)
      cases (label_of_missing labels text' needed again).1
    · exact label_searches_again labels ((made' l).2 made) (text l made) needed done

theorem label_again_of_found :
    let host := Stock.host [("library", ⟨[[("id", "1"), ("text", "First")]], .everything⟩)]
    ∃ c : Criterion, (c.label host .initial).2.outcome = .ok true ∧
      let c' := (c.label host .initial).1
      c'.values = [.map [("key", "1"), ("text", "First")]] ∧
      (Session.initial.keep "author" (some c')).run host (List.replicate 2 (.label "author"))
        = (Session.initial.keep "author" (some c'),
          List.replicate 2 (.labelled ⟨[], .ok false⟩ c'.values)) := by
  intro host
  let config : Value := .map [("name", "author"), ("search_context", .engine "library"),
    ("values", .list [.map [("key", "1")]])]
  let build := (Construction.ofConfig config).build .initial
  have made : build.map (fun c => (c.values.all Value.isMap, (c.label host .initial).2.outcome,
      (c.label host .initial).1.values, (c.label host .initial).1.needsLabels))
        = .ok (true, .ok true, [.map [("key", "1"), ("text", "First")]], false) := by
    decide +kernel
  have kinds : (build.bind fun c => (c.labeller host .initial).outcome.map Labeller.kind)
      = .ok .text := by
    decide +kernel
  obtain ⟨c, builds, facts⟩ := Outcome.map_eq_ok.1 made
  rw [builds] at kinds
  obtain ⟨l, isLabeller, isText⟩ := Outcome.map_eq_ok.1 kinds
  simp only [Prod.mk.injEq] at facts
  obtain ⟨maps, succeeded, values, labelled⟩ := facts
  have text (l' : Labeller) (isLabeller' : (c.labeller host .initial).outcome = .ok l') :
      l'.kind = .text := by
    rw [← Except.ok.inj (isLabeller.symm.trans isLabeller')]
    exact isText
  have isThere : (Session.initial.keep "author" (some (c.label host .initial).1)).criteria "author"
      = some (c.label host .initial).1 := by
    rw [Session.criteria_keep, if_pos rfl]
  have again := label_again (List.all_eq_true.1 maps) text succeeded
  exact ⟨c, succeeded, values, again.2.2.1 labelled _ _ 2 isThere⟩

/-- When no document has the key, the second call searches like the first one and replaces the
values again. -/
theorem label_sought_again :
    let host := Stock.host [("library", ⟨[], .matching⟩)]
    ∃ c, (Construction.ofConfig (.map [("name", "company"), ("search_context", .engine "library"),
        ("values", .list [.map [("key", "99")]])])).build .initial = .ok c ∧
      let c' := (c.label host .initial).1
      (c.label host .initial).2.outcome = .ok true ∧
        c'.values = [.map [("key", "99"), ("text", .null)]] ∧
        (c'.label host .initial).2.outcome = .ok true ∧
        (c'.label host .initial).2.searches = [("library", .matching .plain "id" "99")] := by
  intro host
  let config : Value := .map [("name", "company"), ("search_context", .engine "library"),
    ("values", .list [.map [("key", "99")]])]
  let build := (Construction.ofConfig config).build .initial
  have first : build.map (fun c =>
      ((c.label host .initial).2.outcome, (c.label host .initial).1.values))
        = .ok (.ok true, [.map [("key", "99"), ("text", .null)]]) := by
    decide +kernel
  have second : build.map (fun c => ((c.label host .initial).1.label host .initial).2.outcome)
      = .ok (.ok true) := by
    decide +kernel
  have searches : build.map (fun c => ((c.label host .initial).1.label host .initial).2.searches)
      = .ok [("library", .matching .plain "id" "99")] := by
    decide +kernel
  obtain ⟨c, builds, facts⟩ := Outcome.map_eq_ok.1 first
  obtain ⟨succeeded, values⟩ := Prod.mk.inj facts
  rw [builds] at second searches
  exact ⟨c, builds, succeeded, values, Except.ok.inj second, Except.ok.inj searches⟩

end Criterion

end Criteria
