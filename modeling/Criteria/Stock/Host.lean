import Criteria.Host
import Criteria.Stock.Transforms
import Criteria.Stock.Engines
import Criteria.Stock.Labellers

/-! # The stock host

A host made of the stock transforms and labellers and of some engines by name.  Its labellers leave
the entries that they are handed as they are.
-/

namespace Criteria.Stock

/-- The engine with a name; one without documents when there is none. -/
def engineNamed (engines : List (String × Engine)) (name : String) : Engine :=
  ((engines.find? fun e => e.1 == name).map (·.2)).getD ⟨[], .matching⟩

/-- The host with the given engines. -/
def host (engines : List (String × Engine)) : Host where
  transform := transform
  search := fun name clause => (engineNamed engines name).search clause
  make := fun name arguments => .ofExcept (Labeller.ofArguments (.custom name) arguments)
  load := fun name l entries => ⟨entries, .ofExcept (load name l entries)⟩
  labellerName := labellerName

end Criteria.Stock
