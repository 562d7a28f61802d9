import Pipework.Conversion.Registry
import Pipework.Telemetry.Event
import Pipework.Telemetry.Tally
import Pipework.Value.Lookup

set_option autoImplicit false

/-!
# The state of the engine

Everything that outlives a single call: the property bags and the registries that builders share,
the states of components, the variables of a program, the call log, and what has been
reported and counted.

## Main definitions

* `Bag` — the properties that builders share.
* `Held` — what a component keeps in its state.
* `State` — the state of the engine.
* `Engine`, `Assembly` — computations on the state, without and with failure. A failed computation
  keeps what it has changed before it failed.
-/

namespace Pipework

/-- The properties that builders share. -/
abbrev Bag := OrderedMap String Value

/-- An entry in the state of a component. Its text is fixed when the component takes it, so that a
component shows what it was given however the things it was given change. -/
structure Held where
  content : Content
  text : String

/-- The state of the engine. -/
structure State where
  /-- The property bags in the order in which they were made. The first one is that of the root. -/
  bags : List Bag
  /-- The registries in the order in which they were made. The first one is that of the root. -/
  registries : List Registry
  /-- The states of the components. -/
  cells : List (List Held)
  /-- The components whose state has been replaced, each as often as that has happened, in order. -/
  told : List CellId
  /-- The variables of a program. -/
  vars : OrderedMap String Value
  /-- The calls since the last look at them, oldest first. -/
  calls : List String
  /-- The events since the last look at them, oldest first. -/
  events : List Event
  tally : Tally

namespace State

/-- Nothing has happened yet. -/
def initial : State := ⟨[], [], [], [], .empty, [], [], .empty⟩

instance : Inhabited State := ⟨initial⟩

/-- The property bag of the root builder. -/
def rootBag : BagId := 0

/-- The registry of the root builder. -/
def rootRegistry : RegistryId := 0

/-- A property bag. One that does not exist has no properties. -/
def bag (s : State) (p : BagId) : Bag := s.bags[p]?.getD .empty

/-- A registry. One that does not exist has no edges. -/
def registry (s : State) (r : RegistryId) : Registry := s.registries[r]?.getD .empty

/-- Changes a property bag. -/
def updateBag (s : State) (p : BagId) (u : Bag → Bag) : State :=
  { s with bags := s.bags.modify p u }

/-- Changes a registry. -/
def updateRegistry (s : State) (r : RegistryId) (u : Registry → Registry) : State :=
  { s with registries := s.registries.modify r u }

/-- The state of a component. -/
def cell (s : State) (c : CellId) : List Held := s.cells[c]?.getD []

/-- The app that a component holds: the first one in its state. -/
def heldApp (s : State) (c : CellId) : Option App :=
  (s.cell c).findSome? fun h => h.content.app?

/-- The number function that a component holds: the first one in its state. -/
def heldNum (s : State) (c : CellId) : Option Num :=
  (s.cell c).findSome? fun h => h.content.num?

/-- The text of the state of a component. -/
def cellText (s : State) (c : CellId) : String :=
  String.intercalate "," ((s.cell c).map Held.text)

/-- How often a call may come back to components that it has passed through. -/
def returnLimit : Nat := 1000000

/-- Runs an app on an environment. A chain of distinct components is never longer than their
number, so that a call is cut short only if it comes back to components too often. -/
def serve (s : State) (a : App) (e : Environment) : Environment :=
  a.run s.heldApp (s.cells.length + returnLimit) e

end State

/-- A computation on the state of the engine. -/
abbrev Engine := StateM State

/-- A computation on the state of the engine that may fail. What was changed before a failure
stays changed. -/
abbrev Assembly := ExceptT BuildError Engine

namespace Engine

/-- Adds a line to the call log. -/
def logCall (line : String) : Engine Unit := modify fun s => { s with calls := s.calls ++ [line] }

/-- Reports an event. -/
def report (e : Event) : Engine Unit := modify fun s => { s with events := s.events ++ [e] }

/-- Raises a counter. -/
def raise (c : Counter) (n : Nat) : Engine Unit :=
  modify fun s => { s with tally := s.tally.raise c n }

/-- Makes the state of a new component. -/
def newCell (entries : List Held) : Engine CellId :=
  modifyGet fun s => (s.cells.length, { s with cells := s.cells ++ [entries] })

/-- Replaces the state of a component. -/
def setCell (c : CellId) (entries : List Held) : Engine Unit :=
  modify fun s => { s with cells := s.cells.set c entries, told := s.told ++ [c] }

/-- Stores a property and gives the one it replaces. -/
def setProperty (p : BagId) (key : String) (v : Value) : Engine (Option Value) :=
  modifyGet fun s => ((s.bag p).get? key, s.updateBag p fun m => m.insert key v)

/-- Removes a property and gives it back. -/
def removeProperty (p : BagId) (key : String) : Engine (Option Value) :=
  modifyGet fun s => ((s.bag p).get? key, s.updateBag p fun m => m.erase key)

/-- Adds an edge to a registry. -/
def addConversion (r : RegistryId) (c : Conversion) : Engine Unit := do
  report (.registered c.source c.target)
  modify fun s => s.updateRegistry r fun m => m.add c

end Engine

/-- Passes the failure of a pure computation on. -/
def Assembly.ofExcept {α : Type} (x : Except BuildError α) : Assembly α := ExceptT.mk (pure x)

/-- Runs a computation and gives its failure as a result. -/
def Assembly.attempt {α : Type} (x : Assembly α) : Assembly (Except BuildError α) :=
  ExceptT.mk do
    let r ← x.run
    pure (.ok r)

/-- Registers a value as a conversion. -/
def Assembly.register (r : RegistryId) (v : Value) : Assembly Unit := do
  let c ← Assembly.ofExcept (Conversion.ofValue v)
  Engine.addConversion r c

end Pipework
