import Pipework.Error
import Pipework.Value.Code

set_option autoImplicit false

/-!
# Erased values

A value whose type is known at run time only. It holds plain data, a handle to a function or an
app, a component, or a component type; the engine can call those handles that are routines.

## Main definitions

* `Routine` — a function that can be called with erased arguments, by its parameters and result.
* `Content`, `Value`, `Instance` — what a value holds, the value, and components.
* `Value.shape`, `Value.convention?`, `Value.content?` — how a value is looked at.
* `extractAll` — the arguments of a dynamic call, checked against the parameters.

## Main results

* `Value.shape_of_mem_content?` — what a value gives away has the shape of the value.
-/

namespace Pipework

/-- The identity of a property bag. -/
abbrev BagId := Nat

/-- The identity of a registry of conversions. -/
abbrev RegistryId := Nat

/-- A function from numbers to numbers, with arithmetic modulo `2 ^ 32`. -/
inductive Num where
  | linear (mul add : UInt32)
  /-- A function of the program. -/
  | func (f : Func)
  /-- Thirty-one times `base` plus `step`. -/
  | over (step : UInt32) (base : Num)
  /-- The same over the identity. -/
  | plain (step : UInt32)
  /-- The same over the number function that a component holds. -/
  | resumed (step : UInt32) (cell : CellId)

/-- A function that the engine can call with erased arguments. -/
inductive Routine where
  /-- A function of the program. An operation of a component that keeps what it is told makes its
  arguments the state `owner` of the component. -/
  | func (f : Func) (owner : Option CellId)
  | num (n : Num)
  /-- Turns an app that is a function into an object. -/
  | toObject
  /-- Turns an app that is an object into a function. -/
  | toFunc
  /-- Registers its argument as a conversion. -/
  | register (registry : RegistryId)
  /-- Puts a layer around the next app. -/
  | layer (l : Layer)
  /-- Replaces the next app. -/
  | handler (a : App)
  /-- Makes a choice between a branch and the next app. -/
  | choose

/-- The parameters of a routine. -/
def Routine.params : Routine → List Shape
  | .func f _ => f.params
  | .num _ => [.u32]
  | .toObject => [.appFunc]
  | .toFunc => [.dynApp]
  | .register _ => [.value]
  | .layer _ => [.appFunc]
  | .handler _ => [.appFunc]
  | .choose => [.appFunc, .predicate, .appFunc]

/-- The result type of a routine. -/
def Routine.out : Routine → Shape
  | .func f _ => f.out.shape
  | .num _ => .u32
  | .toObject => .dynApp
  | .toFunc => .appFunc
  | .register _ => .atom .registration
  | .layer _ => .appFunc
  | .handler _ => .appFunc
  | .choose => .appFunc

/-- The shape of a routine. -/
def Routine.shape (r : Routine) : Shape := .func r.params r.out

/-- A component type: a class with its constructors. -/
inductive ComponentType where
  | crafted (cls : Nat) (label : String) (ops : List Op) (ctors : List (List Shape))
  /-- Mounted branches, made from the next app and the options. -/
  | mount

/-- The shape of the components of a type. -/
def ComponentType.instanceShape : ComponentType → Shape
  | .crafted cls _ _ _ => .atom (.component cls)
  | .mount => .atom .mapMiddleware

/-- The name of a component type is that of its components. -/
def ComponentType.name (t : ComponentType) : String := t.instanceShape.name

/-- The parameter lists of the constructors, in order. -/
def ComponentType.ctors : ComponentType → List (List Shape)
  | .crafted _ _ _ ctors => ctors
  | .mount => [[.appFunc, .atom .mapOptions]]

mutual

/-- What a value holds, with its type. -/
inductive Content where
  | datum (d : Datum)
  | routine (r : Routine)
  | app (form : AppForm) (a : App)
  | value (v : Value)
  | component (i : Instance)
  | mapOptions (path : String) (branch : App)
  | predicate (c : Cond)
  /-- The outcome of registering a conversion. -/
  | registration (error : Option BuildError)

/-- An erased value. -/
inductive Value where
  /-- Plain data; a handle that is stored as data cannot be called. -/
  | data (c : Content)
  /-- A handle that cannot be called dynamically. -/
  | bound (c : Content)
  /-- A handle that can be called dynamically. -/
  | callable (r : Routine)
  | component (i : Instance)
  | componentType (t : ComponentType)

/-- A component. -/
inductive Instance where
  /-- A component of the program with its operations, the callable it stands for, if any, and the
  identity of its state. -/
  | crafted (cls : Nat) (label : String) (ops : List Op) (callable : Option Value) (cell : CellId)
  /-- A mounted branch. -/
  | mount (path : String) (branch next : App)

end

/-- The class of a component. -/
def Instance.shape : Instance → Shape
  | .crafted cls _ _ _ _ => .atom (.component cls)
  | .mount _ _ _ => .atom .mapMiddleware

/-- The callable that a component stands for. -/
def Instance.callable? : Instance → Option Value
  | .crafted _ _ _ callable _ => callable
  | .mount _ _ _ => none

/-- The type of what a value holds. -/
def Content.shape : Content → Shape
  | .datum d => d.shape
  | .routine r => r.shape
  | .app form _ => form.shape
  | .value _ => .value
  | .component i => i.shape
  | .mapOptions _ _ => .atom .mapOptions
  | .predicate _ => .predicate
  | .registration _ => .atom .registration

namespace Value

/-- The run-time type of a value. -/
def shape : Value → Shape
  | .data c => c.shape
  | .bound c => c.shape
  | .callable r => r.shape
  | .component i => i.shape
  | .componentType _ => .atom .componentType

/-- What a value holds; a component type gives nothing away. -/
def content? : Value → Option Content
  | .data c => some c
  | .bound c => some c
  | .callable r => some (.routine r)
  | .component i => some (.component i)
  | .componentType _ => none

/-- What a value gives away has the shape of the value. -/
theorem shape_of_mem_content? {v : Value} {c : Content} (h : v.content? = some c) :
    c.shape = v.shape := by
  cases v <;> simp only [content?, Option.some.injEq, reduceCtorEq] at h <;> subst h <;> rfl

/-- What a value holds, if it holds something of type `s`. -/
def get? (v : Value) (s : Shape) : Option Content :=
  v.content?.bind fun c => if c.shape = s then some c else none

/-- The calling convention of a handle. -/
def convention? : Value → Option Convention
  | .bound c => some (Convention.ofShape c.shape)
  | .callable r => some (Convention.ofShape r.shape)
  | _ => none

/-- The routine behind a value that can be called dynamically. -/
def routine? : Value → Option Routine
  | .callable r => some r
  | _ => none

/-- Whether a value can be called dynamically. -/
def isInvocable (v : Value) : Bool := v.routine?.isSome

/-- Whether a value can be used where a convention is expected. -/
def satisfies (v : Value) (c : Convention) : Bool := c.isSatisfiedBy v.shape

/-- Whether a value can be given for a parameter: the parameter has its shape, or takes any
value. -/
def fits (v : Value) (param : Shape) : Bool := v.shape = param || param = .value

/-- The text of a value in messages. -/
def describe : Value → String
  | .data c => "value " ++ c.shape.name
  | .bound c => "callable " ++ (Convention.ofShape c.shape).display
  | .callable r => "callable " ++ (Convention.ofShape r.shape).display
  | .component i => "component " ++ i.shape.name
  | .componentType t => "component type " ++ t.name

/-- The text of a value in listings. -/
def debug (v : Value) : String := "Value(" ++ Text.quoted v.describe ++ ")"

end Value

/-- The arguments of a dynamic call. -/
abbrev Args := List Value

namespace Args

/-- The shapes of the arguments. -/
def shapes (args : Args) : List Shape := args.map Value.shape

/-- Whether the arguments fit the parameters, one by one. -/
def fits : Args → List Shape → Bool
  | [], [] => true
  | v :: args, p :: params => v.fits p && fits args params
  | _, _ => false

/-- The text of an argument list in listings. -/
def debug (args : Args) : String :=
  "Args([" ++ String.intercalate ", " (args.map Value.debug) ++ "])"

end Args

/-- The content of the argument at `index` for a parameter: a parameter that takes any value gets
the erased argument itself. -/
def extractFrom (index : Nat) (v : Value) (param : Shape) : Except BuildError Content :=
  if param = .value then .ok (.value v)
  else
    match v.get? param with
    | some c => .ok c
    | none => .error (.argumentMismatch index param v.shape)

/-- The contents of arguments for parameters, the first of them at `index`. -/
def extractList (index : Nat) : List Shape → Args → Except BuildError (List Content)
  | p :: params, v :: args =>
    match extractFrom index v p with
    | .error e => .error e
    | .ok c =>
      match extractList (index + 1) params args with
      | .error e => .error e
      | .ok cs => .ok (c :: cs)
  | _, _ => .ok []

/-- The contents of the arguments of a call. Their number is checked first. -/
def extractAll (params : List Shape) (args : Args) : Except BuildError (List Content) :=
  if args.length ≠ params.length then .error (.argumentCount params.length args.length)
  else extractList 0 params args

/-- The content of one argument, asked for by its position. -/
def extractAt (args : Args) (index : Nat) (param : Shape) : Except BuildError Content :=
  match args[index]? with
  | some v => extractFrom index v param
  | none => .error (.argumentCount (index + 1) args.length)

end Pipework
