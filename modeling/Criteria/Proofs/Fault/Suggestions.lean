import Criteria.Proofs.Session.Bindings
import Criteria.Proofs.Text.CloseMatches
import Criteria.Stock.Host

/-! # What faults suggest

A fault about names that are not known lists the names in order and suggests the closest ones.  It
is the same fault in whatever order the names were found.

* `Fault.ReportsName` — a fault about a labeller that is not registered;
* `Fault.ReportsOptions` — a fault about label options that there are not;
* `Catalog.resolve_of_not_listed`, `Criterion.ofEntries_of_stray` — when there is such a fault;
* `Session.run_suggestions` — these faults are what a session answers after any commands.

Names are sorted before anything is made of them, and close matches are the first words of a ranking
that there is only one of.  So all that a fault says is determined by which names there are.
-/

namespace Criteria

open Entries

theorem Entries.get?_map_str {words : List String} {word : String} (member : word ∈ words)
    (f : String → Value) :
    get? (words.map fun w => (.str w, f w)) (.str word) = some (f word) := by
  induction words with
  | nil => cases member
  | cons first rest inductionHypothesis =>
    rw [List.map_cons, get?_cons, Value.sameKey_str]
    by_cases same : first = word
    · simp [same]
    · simp [same, inductionHypothesis ((List.mem_cons.1 member).resolve_left (Ne.symm same))]

namespace Fault

/-! ## Unknown labellers -/

/-- A fault about a name, where `isKnown` holds of the names that are known: it lists all of these
in strict order, and suggests the best three. -/
structure ReportsName (fault : Fault) (name : String) (isKnown : String → Prop)
    (available suggestions : List String) : Prop where
  sorted : available.Pairwise (· < ·)
  mem_available : ∀ other, other ∈ available ↔ isKnown other
  best : Text.Best 3 (Text.spelling name) available suggestions
  name_not_mem : name ∉ suggestions
  attributes : fault.attributes = [(.str "name", .str name),
    (.str "available", wordList available), (.str "suggestions", wordList suggestions)]
  details : fault.details? = some (.map [("error", "RESOLVER_NOT_FOUND"), ("resolver", .str name),
    ("suggestions", wordList suggestions), ("available", wordList available)])

/-- However the known names are enumerated, the fault is the one that lists them in order. -/
theorem noSuchLabeller_eq {known available : List String} (name : Value) (distinct : known.Nodup)
    (sorted : available.Pairwise (· < ·)) (same : ∀ other, other ∈ known ↔ other ∈ available) :
    noSuchLabeller name known = .unknownLabeller name available := by
  have perm : known.Perm available :=
    (List.perm_ext_iff_of_nodup distinct (sorted.imp ne_of_lt)).2 same
  rw [noSuchLabeller, Text.sortWords_congr perm, Text.sortWords_of_pairwise (sorted.imp le_of_lt)]

theorem reportsName_unknownLabeller {name : String} {isKnown : String → Prop}
    {available : List String} (sorted : available.Pairwise (· < ·))
    (known : ∀ other, other ∈ available ↔ isKnown other) (unknown : ¬ isKnown name) :
    (unknownLabeller (.str name) available).ReportsName name isKnown available
      (labellerMatches available (.str name)) := by
  have best := Text.best_closeMatches 3 (Text.spelling name) (sorted.imp ne_of_lt)
  exact ⟨sorted, known, best, fun member => unknown ((known name).1 (best.subset member)), rfl, rfl⟩

/-! ## Unknown label options -/

/-- A fault about keys that are no label options: it lists their texts in order, and suggests for
each of them the best option, if any is close. -/
structure ReportsOptions (fault : Fault) (unknown : List Value) (invalid : List String)
    (suggestions : Entries) : Prop where
  sorted : invalid.Pairwise (· ≤ ·)
  texts : invalid.Perm (unknown.map Value.text)
  keys : Entries.keys suggestions = invalid.eraseDups.map .str
  best : ∀ key ∈ invalid, ∃ found, get? suggestions (.str key) = some (wordList found) ∧
    Text.Best 1 (Text.spelling key) ["key", "label", "resolver"] found
  attributes : fault.attributes = [(.str "invalid_keys", wordList invalid),
    (.str "valid_keys", wordList ["key", "label", "resolver"]),
    (.str "suggestions", .map suggestions)]
  details : fault.details? = some (.map [("error", "INVALID_LOOKUP_OPTION"),
    ("invalid_keys", wordList invalid), ("suggestions", .map suggestions),
    ("valid_keys", wordList ["key", "label", "resolver"])])

theorem strayLabelOptions_congr {invalid invalid' valid valid' : List String}
    (sameInvalid : invalid.Perm invalid') (sameValid : valid.Perm valid') :
    strayLabelOptions invalid valid = strayLabelOptions invalid' valid' := by
  rw [strayLabelOptions, strayLabelOptions, Text.sortWords_congr sameInvalid,
    Text.sortWords_congr sameValid]

theorem reportsOptions_strayLabelOptions (unknown : List Value) :
    ∃ invalid suggestions,
      (strayLabelOptions (unknown.map Value.text) Labels.optionKeys).ReportsOptions unknown invalid
        suggestions := by
  have options : Text.sortWords Labels.optionKeys = Labels.optionKeys :=
    Text.sortWords_of_pairwise (by decide)
  rw [strayLabelOptions, options]
  refine ⟨_, _, Text.pairwise_sortWords _, Text.sortWords_perm _, ?_, fun key member => ?_, rfl,
    rfl⟩
  · simp [keys, Function.comp_def]
  · exact ⟨_, get?_map_str (List.mem_eraseDups.2 member) _,
      Text.best_closeMatches 1 (Text.spelling key) (by decide)⟩

end Fault

/-! ## When they are raised -/

/-- A name that is not listed is missed in the same way by all catalogs with the listed names. -/
theorem Catalog.resolve_of_not_listed {c : Catalog} {name : String} {available : List String}
    (sorted : available.Pairwise (· < ·)) (listed : ∀ other, c.has other = true ↔ other ∈ available)
    (missing : name ∉ available) :
    c.resolve name = .error (.unknownLabeller (.str name) available) := by
  have names : c.names = available :=
    c.pairwise_names.eq_of_mem_iff sorted fun other => (c.mem_names other).trans (listed other)
  rw [resolve_of_not_has (Bool.eq_false_iff.2 (mt (listed name).1 missing)), names]

/-- Unknown label options are refused whatever else a configuration holds, and in whatever order
they are given. -/
theorem Criterion.ofEntries_of_stray {es : Entries} {unknown : List Value}
    (strays : (Config.strayOptions es).Perm unknown) (notEmpty : unknown ≠ []) (cs : Catalogs) :
    ofEntries cs es
      = .error (.strayLabelOptions (unknown.map Value.text) Labels.optionKeys) := by
  have stray : Config.strayLabelKeys es ≠ [] := fun none =>
    notEmpty (List.perm_nil.1 (Config.strayLabelKeys_eq_nil.1 none ▸ strays.symm))
  rw [ofEntries_of_refused (Config.read_of_stray stray) cs, Config.strayLabelKeys_eq,
    Fault.strayLabelOptions_congr (strays.map Value.text) (.refl _)]

/-! ## Sessions -/

namespace Session

/-- After any commands, a catalog that is asked for a name under which no labeller is registered
answers with a fault that lists the registered names and suggests the best three.  A configuration
with unknown label options is refused with a fault that lists the unknown keys and suggests the best
option for each.  The faults, and so their messages and details, are the same in whatever order
names and keys are enumerated, registered or given. -/
theorem run_suggestions (host : Host) (s₀ : Session) (commands : List Command) :
    let s := (s₀.run host commands).1
    (∀ catalog name, s₀.bound commands catalog name = none →
      let isRegistered := fun other => (s₀.bound commands catalog other).isSome = true
      ∃ fault available suggestions, s.step host (.resolve catalog name) = (s, .fault fault) ∧
        fault.ReportsName name isRegistered available suggestions ∧
        (∀ known : List String, known.Nodup → (∀ other, other ∈ known ↔ isRegistered other) →
          Fault.noSuchLabeller (.str name) known = fault) ∧
        ∀ c : Catalog, (∀ other, c.has other = true ↔ isRegistered other) →
          c.resolve name = .error fault) ∧
    ∀ es, Config.strayOptions es ≠ [] →
      ∃ fault invalid suggestions, Criterion.ofEntries s.catalogs es = .error fault ∧
        (∀ command, s.Reads command es → (s.step host command).2 = .fault fault) ∧
        fault.ReportsOptions (Config.strayOptions es) invalid suggestions ∧
        (∀ unknown valid : List String, unknown.Perm ((Config.strayOptions es).map Value.text) →
          valid.Perm ["key", "label", "resolver"] →
            Fault.strayLabelOptions unknown valid = fault) ∧
        ∀ cs es', (Config.strayOptions es').Perm (Config.strayOptions es) →
          Criterion.ofEntries cs es' = .error fault := by
  intro s
  constructor
  · intro catalog name unbound isRegistered
    have sorted := (s.catalogs.get catalog).pairwise_names
    have listed (other : String) :
        other ∈ (s.catalogs.get catalog).names ↔ isRegistered other :=
      mem_names_run host s₀ commands catalog other
    have unknown : ¬ isRegistered name := by
      simp [isRegistered, unbound]
    refine ⟨_, _, _, (s.answers host catalog name).refused ?_,
      Fault.reportsName_unknownLabeller sorted listed unknown,
      fun known distinct same => ?_, fun c same => ?_⟩
    · exact (get?_run host s₀ commands catalog name).trans unbound
    · exact Fault.noSuchLabeller_eq (.str name) distinct sorted fun other =>
        (same other).trans (listed other).symm
    · exact Catalog.resolve_of_not_listed sorted
        (fun other => (same other).trans (listed other).symm) (mt (listed name).1 unknown)
  · intro es stray
    obtain ⟨invalid, suggestions, reports⟩ :=
      Fault.reportsOptions_strayLabelOptions (Config.strayOptions es)
    have refused := Criterion.ofEntries_of_stray (.refl _) stray s.catalogs
    refine ⟨_, invalid, suggestions, refused, fun command reads => ?_, reports,
      fun unknown valid same sameValid => Fault.strayLabelOptions_congr same sameValid,
      fun cs es' same => Criterion.ofEntries_of_stray same stray cs⟩
    rw [reads.answer, refused]

/-- Three of the four close names are suggested, the later ones first where they are equally close.
The name itself is registered no more, and one of the unknown keys is no text. -/
theorem run_suggestions_of_ties :
    let host := Stock.host []
    let commands : List Command := [.register "own" "textb" .text, .register "own" "texts" .text,
      .register "own" "texta" .abstract, .register "own" "textc" (.custom "suffix"),
      .unregister "own" "texts", .register "own" "word" .text]
    let s := (Session.initial.run host commands).1
    let bound := Session.initial.bound commands "own"
    let config : Entries := [("name", "author"),
      ("lookup", .map [("resolvr", "text"), (.int 1, .null), ("labels", "title")])]
    bound "texts" = none ∧
      (∃ fault, s.step host (.resolve "own" "texts") = (s, .fault fault) ∧
        fault.ReportsName "texts" (fun other => (bound other).isSome = true)
          ["text", "texta", "textb", "textc", "word"] ["text", "textc", "textb"]) ∧
      Config.strayOptions config ≠ [] ∧
      ∃ fault suggestions, Criterion.ofEntries s.catalogs config = .error fault ∧
        fault.ReportsOptions (Config.strayOptions config) ["1", "labels", "resolvr"] suggestions ∧
        get? suggestions "1" = some (.list []) ∧
        get? suggestions "labels" = some (.list ["label"]) ∧
        get? suggestions "resolvr" = some (.list ["resolver"]) := by
  intro host commands s bound config
  have unbound : bound "texts" = none := by decide +kernel
  have stray : Config.strayOptions config ≠ [] := by decide +kernel
  obtain ⟨named, optional⟩ := run_suggestions host Session.initial commands
  obtain ⟨fault, available, suggestions, answered, reports, _⟩ := named "own" "texts" unbound
  obtain ⟨fault', invalid, suggestions', refused, _, reports', _⟩ := optional config stray
  have isAvailable : available = ["text", "texta", "textb", "textc", "word"] := by
    have names : (s.catalogs.get "own").names.Perm ["text", "texta", "textb", "textc", "word"] :=
      (Text.sortWords_perm _).trans (by decide +kernel)
    refine reports.sorted.eq_of_mem_iff (by decide) fun other => ?_
    rw [reports.mem_available, ← mem_names_run host]
    exact names.mem_iff
  have isInvalid : invalid = ["1", "labels", "resolvr"] := by
    have texts : ["1", "labels", "resolvr"].Perm
        ((Config.strayOptions config).map Value.text) := by decide +kernel
    exact List.Perm.eq_of_pairwise (fun _ _ _ _ => le_antisymm) reports'.sorted (by decide)
      (reports'.texts.trans texts.symm)
  subst isAvailable isInvalid
  have ranking : Text.Ranking (Text.spelling "texts") ["text", "texta", "textb", "textc", "word"]
      ["text", "textc", "textb", "texta"] := by
    decide +kernel
  have isBest : suggestions = ["text", "textc", "textb"] := reports.best.first _ ranking
  subst isBest
  have suggested {key : String} (ranking : List String)
      (member : key ∈ ["1", "labels", "resolvr"])
      (isRanking : Text.Ranking (Text.spelling key) ["key", "label", "resolver"] ranking) :
      get? suggestions' (.str key) = some (Fault.wordList (ranking.take 1)) := by
    obtain ⟨found, isThere, best⟩ := reports'.best key member
    rw [isThere, best.first ranking isRanking]
  refine ⟨unbound, ⟨fault, answered, reports⟩, stray, fault', suggestions', refused, reports',
    suggested [] ?_ ?_, suggested ["label"] ?_ ?_, suggested ["resolver"] ?_ ?_⟩
  all_goals decide +kernel

end Session

end Criteria
