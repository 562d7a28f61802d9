set_option autoImplicit false

/-!
# The ways to write a stage

## Main definitions

* `StageKind` — how the author of a stage wrote it, with the word and the name of each way.
-/

namespace Pipework

/-- How a stage was written. -/
inductive StageKind where
  /-- A callable that makes the wrapped app from the next one. -/
  | callableFactory
  /-- A component that is told the next app and stands for the wrapped app itself. -/
  | instanceWithInitializer
  /-- A component with an operation that makes the wrapped app. -/
  | instanceWithInvoke
  /-- A component type, of which a component is made for every build. -/
  | constructibleComponent
  deriving DecidableEq, Repr

/-- The word for a kind of stage. -/
def StageKind.word : StageKind → String
  | .callableFactory => "callable_factory"
  | .instanceWithInitializer => "instance_with_initializer"
  | .instanceWithInvoke => "instance_with_invoke"
  | .constructibleComponent => "constructible_component"

/-- The name of a kind of stage in listings. -/
def StageKind.debug : StageKind → String
  | .callableFactory => "CallableFactory"
  | .instanceWithInitializer => "InstanceWithInitializer"
  | .instanceWithInvoke => "InstanceWithInvoke"
  | .constructibleComponent => "ConstructibleComponent"

end Pipework
