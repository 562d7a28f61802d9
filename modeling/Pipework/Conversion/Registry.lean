import Pipework.Value.Basic

set_option autoImplicit false

/-!
# Conversions and their registry

A conversion is a routine with one parameter, seen as an edge from its parameter type to its result
type. A registry holds at most one edge between two types; a later registration takes the place of
an earlier one.

## Main definitions

* `Conversion`, `Conversion.ofValue` — edges, and the values that can be registered as one.
* `Registry` — the edges in the order of their first registration.
-/

namespace Pipework

/-- An edge from one type to another with the routine that leads along it. -/
structure Conversion where
  source : Shape
  target : Shape
  routine : Routine

namespace Conversion

/-- The conversion of a routine with one parameter. -/
def ofRoutine (r : Routine) : Except BuildError Conversion :=
  match r.params with
  | [p] => .ok ⟨p, r.out, r⟩
  | params =>
    .error (.invalidArgument "conversion"
      s!"expected exactly one parameter, found {params.length}")

/-- The conversion of a value that can be called with one argument. -/
def ofValue (v : Value) : Except BuildError Conversion :=
  match v.routine? with
  | some r => ofRoutine r
  | none =>
    .error (.invalidArgument "conversion" s!"{v.describe} is not an invocable callable")

/-- Whether an edge starts at a value: it starts at the type of the value, or at any value. -/
def accepts (c : Conversion) (v : Value) : Bool := v.fits c.source

/-- The text of an edge in listings. -/
def debug (c : Conversion) : String :=
  "Conversion(" ++ c.source.name ++ " => " ++ c.target.name ++ ")"

/-- The edge from apps that are functions to objects. -/
def toObject : Conversion := ⟨.appFunc, .dynApp, .toObject⟩

/-- The edge from apps that are objects to functions. -/
def toFunc : Conversion := ⟨.dynApp, .appFunc, .toFunc⟩

end Conversion

/-- Registered edges, at most one between two types. -/
abbrev Registry := OrderedMap (Shape × Shape) Conversion

namespace Registry

/-- Adds an edge, in place of the edge between the same types if there is one. -/
def add (r : Registry) (c : Conversion) : Registry := OrderedMap.insert r (c.source, c.target) c

/-- The edges in the order of their first registration. -/
def edges (r : Registry) : List Conversion := OrderedMap.values r

/-- The registry of a new builder: apps can be turned from functions into objects and back. -/
def builtin : Registry := add (add OrderedMap.empty .toObject) .toFunc

/-- The text of a registry in listings. -/
def debug (r : Registry) : String :=
  "[" ++ String.intercalate ", " ((edges r).map Conversion.debug) ++ "]"

end Registry

end Pipework
