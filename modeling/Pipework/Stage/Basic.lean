import Pipework.Engine.Component

set_option autoImplicit false

/-!
# Stages

A stage makes the wrapped app from the next one. It is found by looking at the value that describes
it: a callable, a component that stands for a callable, a component with a suitable operation, or a
component type with a suitable constructor. What is chosen must have a parameter for the next app
and further parameters that the extra arguments fit.

## Main definitions

* `Stage` — what has been chosen, with the convention of the next app and the extra arguments.
* `Stage.resolve` — the choice.
* `Stage.apply` — making the wrapped app.
-/

namespace Pipework

/-- How a stage makes the wrapped app. -/
inductive Factory where
  /-- A callable of the next app and the extra arguments. -/
  | callable (r : Routine)
  /-- An operation that is told the next app; the component is the wrapped app. -/
  | told (r : Routine) (component : Value)
  /-- An operation that makes the wrapped app. -/
  | invoke (r : Routine)
  /-- A constructor of a component type; the new component is the wrapped app. -/
  | construct (t : ComponentType) (params : List Shape)

/-- A stage of a pipeline. -/
structure Stage where
  /-- The convention of the next app. -/
  convention : Convention
  factory : Factory
  /-- The extra arguments. -/
  args : Args
  kind : StageKind
  /-- The text of the value that described the stage. -/
  description : String

namespace Stage

/-- Whether a parameter list has room for the next app and fits the extra arguments. -/
def fitsNextAnd : (params : List Shape) → Args → Bool
  | [], _ => false
  | _ :: rest, args => args.fits rest

/-- The callable that a value is or stands for. -/
def callableOf? (v : Value) : Option Routine :=
  match v.routine? with
  | some r => some r
  | none => (v.component?.bind Instance.callable?).bind Value.routine?

/-- The first operation of a name that can be called with the next app and the extra arguments. -/
def operation? (i : Instance) (name : String) (args : Args) : Option Routine :=
  (i.named name).findSome? fun o =>
    o.value.routine?.bind fun r => if fitsNextAnd r.params args then some r else none

/-- The convention of the next app: the first parameter. -/
def nextConvention (params : List Shape) : Convention := .object (params.headD .unit)

/-- The stage in which a component takes part by one of its operations. -/
def ofComponent? (v : Value) (i : Instance) (args : Args) : Option Stage :=
  match operation? i initializeName args with
  | some r =>
    some ⟨nextConvention r.params, .told r v, args, .instanceWithInitializer, v.describe⟩
  | none =>
    (operation? i invokeName args).map fun r =>
      ⟨nextConvention r.params, .invoke r, args, .instanceWithInvoke, v.describe⟩

/-- The stage that a callable makes. -/
def ofCallable? (v : Value) (args : Args) : Option Stage :=
  (callableOf? v).bind fun r =>
    if fitsNextAnd r.params args then
      some ⟨nextConvention r.params, .callable r, args, .callableFactory, v.describe⟩
    else none

/-- The stage that a component type makes. -/
def ofComponentType (v : Value) (t : ComponentType) (args : Args) : Except BuildError Stage :=
  match t.ctors.find? fun params => fitsNextAnd params args with
  | some params =>
    .ok ⟨nextConvention params, .construct t params, args, .constructibleComponent, v.describe⟩
  | none => .error (.constructorArity t.name (args.length + 1))

/-- The stage that a value describes together with extra arguments. -/
def resolve (v : Value) (args : Args) : Except BuildError Stage :=
  match ofCallable? v args with
  | some s => .ok s
  | none =>
    match v with
    | .component i =>
      match ofComponent? v i args with
      | some s => .ok s
      | none => .error (.shapeNotSupported v.describe)
    | .componentType t => ofComponentType v t args
    | _ => .error (.shapeNotSupported v.describe)

/-- Makes the wrapped app from the next one. -/
def apply (s : Stage) (next : Value) : Assembly Value :=
  match s.factory with
  | .callable r => r.invoke (next :: s.args)
  | .told r component => do
    discard (r.invoke (next :: s.args))
    pure component
  | .invoke r => r.invoke (next :: s.args)
  | .construct t params => t.constructWith params (next :: s.args)

/-- The text of a stage in listings. -/
def debug (s : Stage) : String :=
  s!"Stage \x7b convention: {s.convention.debug}, shape: {s.kind.debug}, args: " ++
    s!"{s.args.length}, description: {Text.quoted s.description} \x7d"

end Stage

/-- The text of a list of stages in listings. -/
def debugStages (l : List Stage) : String :=
  "StageList([" ++ String.intercalate ", " (l.map Stage.debug) ++ "])"

end Pipework
