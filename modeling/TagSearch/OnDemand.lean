/-!
# Values built on demand

A value that is built when it is first asked for and kept from then on.
-/

namespace TagSearch

/-- A value that is built at most once. -/
structure OnDemand (α : Type) where
  /-- How the value is built. -/
  build : Unit → α
  /-- The value, once it has been built. -/
  value : Option α := none
  /-- How often it has been built. -/
  builds : Nat := 0

namespace OnDemand

variable {α : Type}

/-- Whether the value has been built. -/
def isBuilt (cell : OnDemand α) : Bool :=
  cell.value.isSome

/-- The value, and the cell after it has been asked for. -/
def force (cell : OnDemand α) : α × OnDemand α :=
  match cell.value with
  | some a => (a, cell)
  | none =>
    let a := cell.build ()
    (a, { cell with value := some a, builds := cell.builds + 1 })

/-- Asks for the value. -/
def get : StateM (OnDemand α) α :=
  modifyGet force

end OnDemand

end TagSearch
