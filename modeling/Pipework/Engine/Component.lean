import Pipework.Engine.Call

set_option autoImplicit false

/-!
# Components

A component offers named operations, each with a handle; a component type has constructors.

## Main definitions

* `Operation`, `Instance.operations` — the operations of a component.
* `ComponentType.construct` — making a component from erased arguments.
-/

namespace Pipework

/-- The name of the operation that is told the next app. -/
def initializeName : String := "Initialize"

/-- The name of the operation that stands for the component itself. -/
def invokeName : String := "Invoke"

/-- A named handle of a component. -/
structure Operation where
  name : String
  value : Value

namespace Operation

/-- The convention of the handle. -/
def convention (o : Operation) : Convention := Convention.ofShape o.value.shape

/-- Whether the operation can be called with the arguments. -/
def accepts (o : Operation) (args : Args) : Bool :=
  o.value.isInvocable && args.fits o.convention.params

/-- The text of an operation in listings. -/
def debug (o : Operation) : String :=
  "Operation \x7b name: " ++ Text.quoted o.name ++ ", convention: " ++ o.convention.debug ++ " \x7d"

end Operation

/-- The state that a call of an operation replaces, if the operation keeps what it is told. -/
def keeper? (keeps : Bool) (cell : CellId) : Option CellId := if keeps then some cell else none

/-- The operation of a component with state `cell`. -/
def Op.bind (cell : CellId) : Op → Operation
  | .call name f true keeps => ⟨name, .callable (.func f (keeper? keeps cell))⟩
  | .call name f false keeps => ⟨name, .bound (.routine (.func f (keeper? keeps cell)))⟩
  | .app name form layer => ⟨name, .bound (form.wrap (.resumed layer cell))⟩
  | .num name label true => ⟨name, .callable (.num (.resumed (Num.ofLength label) cell))⟩
  | .num name label false =>
    ⟨name, .bound (.routine (.num (.resumed (Num.ofLength label) cell)))⟩

namespace Instance

/-- The operations of a component, in the order of their declaration. -/
def operations : Instance → List Operation
  | .crafted _ _ ops _ cell => ops.map (Op.bind cell)
  | .mount path branch next => [⟨invokeName, .bound (.app .func (.mount path branch next))⟩]

/-- The operations of a name. -/
def named (i : Instance) (name : String) : List Operation :=
  i.operations.filter fun o => o.name = name

end Instance

/-- The component in a value. -/
def Value.component? : Value → Option Instance
  | .component i => some i
  | _ => none

namespace ComponentType

/-- The text of a component type in listings. -/
def debug (t : ComponentType) : String :=
  s!"ComponentType \x7b name: {Text.quoted t.name}, constructors: {t.ctors.length} \x7d"

/-- The text of a constructor in listings. -/
def debugCtor (params : List Shape) : String :=
  let shapes := params.map Shape.debug
  "Constructor \x7b params: [" ++ String.intercalate ", " shapes ++ "] \x7d"

/-- The first constructor that takes the arguments. -/
def findCtor (t : ComponentType) (args : Args) : Option (List Shape) :=
  t.ctors.find? fun params => args.fits params

/-- Makes a component from the arguments of a constructor. The constructor of a mounted branch takes
an app and options; the last case makes the function total. -/
def make (t : ComponentType) (args : List Content) : Engine Instance :=
  match t, args with
  | .crafted cls label ops _, args => do
    let held ← hold args
    Engine.logCall (callLine ("new " ++ label) held)
    let cell ← Engine.newCell held
    pure (.crafted cls label ops none cell)
  | .mount, [.app .func next, .mapOptions path branch] => pure (.mount path branch next)
  | .mount, _ => pure (.mount "" .notFound .notFound)

/-- Runs one constructor on erased arguments. -/
def constructWith (t : ComponentType) (params : List Shape) (args : Args) : Assembly Value := do
  let contents ← Assembly.ofExcept (extractAll params args)
  let i ← t.make contents
  pure (.component i)

/-- Runs the first constructor that takes the arguments. -/
def construct (t : ComponentType) (args : Args) : Assembly Value :=
  match t.findCtor args with
  | some params => t.constructWith params args
  | none => throw (.constructorArity t.name args.length)

end ComponentType

end Pipework
