import Pipework.Shape

set_option autoImplicit false

/-!
# Calling conventions

A convention says which type an app has at some point of a pipeline, and, for function types, how
it is called. Only the type decides whether two conventions agree; the call signature is kept for
its text and for structural binding, which looks for callable operations.

## Main definitions

* `Convention` — a handle shape with an optional call signature.
* `Convention.object`, `Convention.ofShape` — the convention of a type without and with the call
  signature of a function type.
-/

namespace Pipework

/-- How a callable is called. -/
structure CallShape where
  params : List Shape
  out : Shape
  deriving DecidableEq

/-- The type of an app, and its call signature if it is a callable. -/
structure Convention where
  handle : Shape
  call : Option CallShape
  deriving DecidableEq

namespace Convention

/-- The convention of a type that is passed around as an object. -/
def object (s : Shape) : Convention := ⟨s, none⟩

/-- A callable convention with a signature of its own. -/
def callable (handle : Shape) (params : List Shape) (out : Shape) : Convention :=
  ⟨handle, some ⟨params, out⟩⟩

/-- The convention that a type declares: function types are callables, all others objects. -/
def ofShape : Shape → Convention
  | .func ps o => callable (.func ps o) ps o
  | .atom a => object (.atom a)

/-- Two conventions agree when their handles are equal. -/
def agrees (c d : Convention) : Bool := c.handle = d.handle

/-- Whether a value of shape `s` can be used where the convention is expected. -/
def isSatisfiedBy (c : Convention) (s : Shape) : Bool := c.handle = s

/-- Whether there is a call signature. -/
def isCallable (c : Convention) : Bool := c.call.isSome

/-- The parameters of a callable, none for an object. -/
def params (c : Convention) : List Shape := (c.call.map CallShape.params).getD []

/-- The result of a callable. -/
def out? (c : Convention) : Option Shape := c.call.map CallShape.out

/-- The two kinds of conventions. -/
inductive Kind where
  | callable | object
  deriving DecidableEq, Repr

/-- The word for a kind. -/
def Kind.name : Kind → String
  | .callable => "callable"
  | .object => "object"

/-- The kind of a convention. -/
def kind (c : Convention) : Kind := if c.isCallable then .callable else .object

/-- A callable shows its signature, an object its shape. -/
def display (c : Convention) : String :=
  match c.call with
  | some call =>
    "fn(" ++ String.intercalate ", " (call.params.map Shape.name) ++ ") -> " ++ call.out.name
  | none => c.handle.name

/-- The text of a convention in listings. -/
def debug (c : Convention) : String := "Convention(" ++ c.display ++ ")"

/-- The handle of an object is its type. -/
@[simp] theorem handle_object (s : Shape) : (object s).handle = s := rfl

/-- A target that is asked for by a type has this type as its handle. -/
@[simp] theorem handle_ofShape (s : Shape) : (ofShape s).handle = s := by cases s <;> rfl

end Convention

end Pipework
