/-! # Label options

Where the labels of a criterion's values come from.

* `Labels.Options` — the document fields for key and label, and the labeller that finds labels;
* `Labels.defaultLabeller` — the labeller used when none is named.
-/

namespace Criteria.Labels

/-- The labeller used when none is named. -/
def defaultLabeller : String := "text"

/-- Where labels come from: the document field that holds the keys, the one that holds the labels,
and the name of a labeller.  A field that is not given is the labeller's own choice. -/
structure Options where
  key : Option String
  label : Option String
  labeller : String
deriving DecidableEq, Repr

namespace Options

/-- Options that leave every choice to the default labeller. -/
def standard : Options := ⟨none, none, defaultLabeller⟩

end Options

end Criteria.Labels
