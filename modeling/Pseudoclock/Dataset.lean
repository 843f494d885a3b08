import Pseudoclock.OrderedMap
import Pseudoclock.Table

/-!
Datasets: all instruction tables of a device.
-/

namespace Pseudoclock

/-- The tables of a device, by name. -/
structure Dataset where
  device : String
  tables : OrderedMap Table
deriving DecidableEq

namespace Dataset

def empty (device : String) : Dataset :=
  ⟨device, OrderedMap.empty⟩

def table (dataset : Dataset) (name : String) : Except Error Table :=
  match dataset.tables.get? name with
  | some table => .ok table
  | none => .error (.malformedProgram (.missingTable dataset.device name))

end Dataset

end Pseudoclock
