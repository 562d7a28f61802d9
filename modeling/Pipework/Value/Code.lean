import Pipework.App.Basic
import Pipework.Value.Datum

set_option autoImplicit false

/-!
# Code

Everything that can be written down without running anything: functions, the operations of
components, and expressions for values.

## Main definitions

* `Output` — what a function can return.
* `Func` — a function: its type and what it does when it runs.
* `Op` — an operation of a component.
* `Expr` — an expression for a value.
-/

namespace Pipework

/-- The three types of apps. -/
inductive AppForm where
  /-- A function of the environment. -/
  | func
  /-- An object with a call operation. -/
  | object
  /-- A wrapper around a function, of a type of its own. -/
  | legacy
  deriving DecidableEq, Repr

/-- The shape of a type of apps. -/
def AppForm.shape : AppForm → Shape
  | .func => .appFunc
  | .object => .dynApp
  | .legacy => .legacy

/-- What a function can return. -/
inductive Output where
  | token (t : Token)
  | string | optionString | u8 | u32 | bool | unit
  /-- An erased text. -/
  | value
  | numFn
  | app (form : AppForm)
  /-- A component of class `0`, as plain data. -/
  | component
  deriving DecidableEq, Repr

/-- The shape of a result. -/
def Output.shape : Output → Shape
  | .token t => .atom (.token t)
  | .string => .atom .string
  | .optionString => .atom .optionString
  | .u8 => .atom .u8
  | .u32 => .u32
  | .bool => .atom .bool
  | .unit => .unit
  | .value => .value
  | .numFn => .numFn
  | .app form => form.shape
  | .component => .atom (.component 0)

mutual

/-- A function. When it runs it adds a line with its label and its arguments to the call log,
registers the functions `registers` as conversions and writes the pairs `writes` into the property
bag, both at the root builder, and returns a result of type `out`. -/
inductive Func where
  | mk (params : List Shape) (out : Output) (label : String) (acts : Option (List Action))
    (registers : List Func) (writes : List (String × Expr))

/-- An operation of a component: a name and a handle. -/
inductive Op where
  /-- A function; only an invocable one can be called dynamically. If it `keeps` what it is told, it
  makes its arguments the state of the component, whatever its result is. -/
  | call (name : String) (f : Func) (invocable keeps : Bool)
  /-- An app around the app in the state of the component. -/
  | app (name : String) (form : AppForm) (layer : Layer)
  /-- A number function on top of the number function in the state of the component. -/
  | num (name : String) (label : String) (invocable : Bool)

/-- An expression for a value. -/
inductive Expr where
  | datum (d : Datum)
  | func (f : Func) (invocable : Bool)
  /-- An app that wraps nothing, as plain data or as a handle. -/
  | app (form : AppForm) (layer : Layer) (asData : Bool)
  | numData (mul add : UInt32)
  | num (mul add : UInt32) (invocable : Bool)
  /-- An erased value inside an erased value. -/
  | value (inner : Expr)
  | component (cls : Nat) (label : String) (ops : List Op) (callable : Option Expr)
  /-- A component as plain data. -/
  | componentData (label : String) (ops : List Op)
  | componentType (cls : Nat) (label : String) (ops : List Op) (ctors : List (List Shape))
  /-- The component type of mounted branches. -/
  | mountType
  | mapOptions (path : String) (layer : Layer)
  /-- The value of a variable. -/
  | var (name : String)

end

namespace Func

/-- The parameter types. -/
def params : Func → List Shape
  | .mk params _ _ _ _ _ => params

/-- What the function returns. -/
def out : Func → Output
  | .mk _ out _ _ _ _ => out

/-- The label in the call log. -/
def label : Func → String
  | .mk _ _ label _ _ _ => label

/-- The actions of an app that the function returns. -/
def acts : Func → Option (List Action)
  | .mk _ _ _ acts _ _ => acts

/-- The functions that a run registers as conversions. -/
def registers : Func → List Func
  | .mk _ _ _ _ registers _ => registers

/-- The pairs that a run writes into the property bag. -/
def writes : Func → List (String × Expr)
  | .mk _ _ _ _ _ writes => writes

/-- The shape of a function. -/
def shape (f : Func) : Shape := .func f.params f.out.shape

end Func

namespace Op

/-- A function as an operation. Without a result it keeps what it is told. -/
def func (name : String) (f : Func) (invocable : Bool) : Op :=
  .call name f invocable (f.out = .unit)

/-- The name of an operation. -/
def name : Op → String
  | .call name _ _ _ => name
  | .app name _ _ => name
  | .num name _ _ => name

end Op

end Pipework
