import Criteria.Labels.Labeller
import Criteria.Run

/-! # The host

What criteria need from the program that uses them.

* `Host.transform` — the functions that ranges apply to their bounds, by name;
* `Host.search` — the search engines, by name: a clause gives documents;
* `Host.make`, `Host.load`, `Host.labellerName` — the kinds of labellers that the host brings;
* `Loading` — what comes of a load;
* `Host.apply` — the result of a transform, which for the identity needs no host.

A kind of labeller may fail to make a labeller, and it may search on its own while it makes one or
loads.  A labeller is handed entries to read and gives back others, but it has the entries of its
criterion in its hands, so it may leave them changed, whether its load fails or not.

Statements about criteria hold for every host.
-/

namespace Criteria

/-- What comes of a load: what the labeller leaves of the entries it was handed, and a run that
gives entries back. -/
structure Loading where
  left : Value
  run : Run (List Value)

/-- What criteria need from the program that uses them. -/
structure Host where
  transform : String → Value → Except Fault Value
  search : String → Clause → Except Fault (List Entries)
  make : String → Entries → Run Labeller
  load : String → Labeller → Value → Loading
  labellerName : String → String

/-- The result of a transform. -/
def Host.apply (host : Host) : Transform → Value → Except Fault Value
  | .identity, v => .ok v
  | .named name, v => host.transform name v

@[simp] theorem Host.apply_identity (host : Host) (v : Value) :
    host.apply .identity v = .ok v := rfl

end Criteria
