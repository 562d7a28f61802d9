import Pipework.Builder

set_option autoImplicit false

/-!
# Steps of a program

A program is a list of steps on builders and values. Each step works on one builder, the root
unless it names another.

## Main definitions

* `Step` — the steps.
* `Answer`, `Report` — what a step answers, with the calls that it made.
-/

namespace Pipework.Session

/-- The ways to register a conversion. -/
inductive Route where
  /-- Through the builder or its registry, as a value or as a conversion. -/
  | direct
  /-- Through the callable in the property bag. -/
  | bag
  deriving DecidableEq, Repr

/-- The registry of a conversion step. -/
inductive RegistryChoice where
  /-- That of the builder. -/
  | own
  /-- A new one without edges. -/
  | bare
  /-- A new one with the edges of a new builder. -/
  | builtin
  deriving DecidableEq, Repr

/-- What is asked of a property bag. -/
inductive PropertyStep where
  /-- Reads a property and stores it under a name, if there is one. -/
  | get (name : Option String) (key : String)
  /-- Whether the property is there as a value of a type. -/
  | getAs (key : String) (type : Shape)
  | set (key : String) (v : Expr)
  | remove (key : String)
  | has (key : String)
  | keys

/-- A step of a program. -/
inductive Step where
  /-- Takes a step on the builder of a name. -/
  | on (builder : String) (step : Step)
  | make (name : String)
  | clone (name : String)
  | branch (name : String)
  | same (name : String)
  /-- Evaluates an expression and stores its value under a name, if there is one. -/
  | value (name : Option String) (v : Expr)
  | use (descriptor : Expr) (args : List Expr)
  | resolve (name : Option String) (descriptor : Expr) (args : List Expr) (next : Option Expr)
  | apply (name : Option String) (index : Nat) (next : Expr)
  | useFunc (f : Func)
  | useMiddleware (name : String) (acts : List Action)
  /-- Adds a stage that answers every request. -/
  | handle (handler : Layer)
  | map (path : String) (steps : List Step)
  | mapWhen (c : Cond) (steps : List Step)
  | add (v : Expr) (route : Route)
  | edges
  | accepts (v : Expr)
  | convert (name : Option String) (v : Expr) (target : Convention) (registry : RegistryChoice)
  | buildValue (name : Option String) (target : Convention)
  | build (name : Option String) (type : Shape)
  /-- Runs the app in a variable; a request that cannot be made is `none`. -/
  | call (var : String) (env : Option Environment)
  | callNum (var : String) (xs : List UInt32)
  | stages
  | debug
  | property (p : PropertyStep)
  | metrics
  | logs
  | inspect (v : Expr) (fits : List Shape) (satisfies : List Convention) (types : List Shape)
  | invoke (name : Option String) (v : Expr) (args : List Expr)
  | construct (name : Option String) (v : Expr) (args : List Expr)
  /-- Inspects an argument list; each question may be left out. -/
  | arguments (args : List Expr) (fits : Option (List (List Shape)))
    (extract : Option (List (Nat × Shape))) (front : Option Expr) (index : Option Nat)
  | operation (v : Expr) (name : String) (args : List Expr)

/-- What a value shows of itself. -/
structure View where
  shape : Shape
  description : String
  text : String

/-- What a component shows of its operations. -/
structure OperationsView where
  operations : List Operation
  callable : Option View

/-- What an inspection tells. -/
structure Inspection where
  view : View
  debug : String
  invocable : Bool
  convention : Option Convention
  fits : List Bool
  satisfies : List Bool
  /-- For each type whether the value is of it, and whether it gives something of it away. -/
  types : List (Bool × Bool)
  component : Option OperationsView
  componentType : Option ComponentType

/-- What the inspection of an argument list tells. -/
structure ArgumentsView where
  args : Args
  fits : Option (List Bool)
  extracted : Option (List (Except BuildError String))
  /-- The shapes with one more argument in front. -/
  extended : Option (List Shape)
  /-- The argument asked for, if one was asked for. -/
  found : Option (Option View)

/-- What a step answers when it does not fail. -/
inductive Answer where
  | made (debug : String)
  | cloned
  | branched (sameBag sameRegistry : Bool) (stages : Nat)
  | same (bag registry : Bool)
  | value (v : View)
  /-- There is nothing to answer with. -/
  | nothing
  | invalidRequest
  | staged (count : Nat) (stage : Stage)
  | resolved (stage : Stage) (descriptor : String) (out : Option (Except BuildError View))
  | count (n : Nat)
  | middleware (name : String) (count : Nat)
  | edges (r : Registry)
  | accepts (l : List Bool)
  | environment (e : Environment)
  | numbers (xs : List UInt32)
  | stages (l : List Stage)
  | debug (builder stages bag : String)
  | property (v : Option View)
  | propertyIs (b : Bool)
  | previous (v : Option View)
  | has (b : Bool)
  | keys (l : List String)
  | metrics (t : Tally)
  | logs (l : List Event)
  | inspected (i : Inspection)
  | constructed (v : View) (ctor : List Shape)
  | arguments (a : ArgumentsView)
  | operations (results : List (Bool × Except BuildError View)) (component : String)

/-- The report on a step. -/
inductive Report where
  | mk (outcome : Except BuildError Answer) (inner : List Report) (calls : List String)

end Pipework.Session
