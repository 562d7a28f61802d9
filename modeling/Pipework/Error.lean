import Pipework.Convention

set_option autoImplicit false

/-!
# Why a pipeline cannot be put together

## Main definitions

* `BuildError` — the causes, with the text of each in `BuildError.message`.
* `BuildError.Kind` — the four groups of causes.
-/

namespace Pipework

/-- The causes for which registering, invoking or building fails. -/
inductive BuildError where
  /-- An argument of a call to the engine itself is not allowed. -/
  | invalidArgument (argument reason : String)
  /-- A dynamic call with the wrong number of arguments. -/
  | argumentCount (expected actual : Nat)
  /-- A dynamic call whose argument has the wrong type. -/
  | argumentMismatch (index : Nat) (expected actual : Shape)
  /-- A value cannot be brought to a convention. -/
  | noConversion (source : Shape) (target : Convention)
  /-- A value cannot serve as a stage. -/
  | shapeNotSupported (descriptor : String)
  /-- No constructor of a component type takes the arguments. -/
  | constructorArity (component : String) (arity : Nat)
  deriving DecidableEq

namespace BuildError

/-- The groups of causes. -/
inductive Kind where
  | argument | noConversion | shapeNotSupported | constructorArity
  deriving DecidableEq, Repr

/-- The group of a cause. -/
def kind : BuildError → Kind
  | .invalidArgument .. | .argumentCount .. | .argumentMismatch .. => .argument
  | .noConversion .. => .noConversion
  | .shapeNotSupported .. => .shapeNotSupported
  | .constructorArity .. => .constructorArity

/-- The text of a cause. -/
def message : BuildError → String
  | .invalidArgument argument reason => s!"invalid argument `{argument}`: {reason}"
  | .argumentCount expected actual => s!"expected {expected} argument(s) but received {actual}"
  | .argumentMismatch index expected actual =>
    s!"argument {index} expected {expected.name} but received {actual.name}"
  | .noConversion source target =>
    s!"no conversion available from {source.name} to {target.display}"
  | .shapeNotSupported descriptor => s!"middleware shape not supported: {descriptor}"
  | .constructorArity component arity =>
    s!"no constructor of {component} accepts {arity} argument(s)"

end BuildError

end Pipework
