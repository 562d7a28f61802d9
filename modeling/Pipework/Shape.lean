import Pipework.Text.Quoted

set_option autoImplicit false

/-!
# Shapes

A shape is the run-time name of a type: two values can be exchanged for one another exactly when
their shapes are equal. Data types are atoms; a function type is the list of its parameters and
its result.

## Main definitions

* `Atom`, `Shape` — the types that a pipeline handles.
* `Shape.numFn`, `Shape.appFunc` — the function types with a name of their own.
* `Shape.name` — the text of a shape.
-/

namespace Pipework

/-- The token types, told apart by their name alone. -/
inductive Token where
  | a | b | c | d | e | f
  deriving DecidableEq, Repr

/-- The name of a token type. -/
def Token.name : Token → String
  | .a => "A"
  | .b => "B"
  | .c => "C"
  | .d => "D"
  | .e => "E"
  | .f => "F"

/-- The types that are not function types. -/
inductive Atom where
  | u8 | u16 | u32 | u64 | i64 | bool | string | str | unit | optionU32 | optionString
  | token (t : Token)
  /-- A request on its way through a pipeline, by value. -/
  | environment
  /-- A test on a request, which looks at it without taking it; no convention calls it. -/
  | predicate
  /-- The environment that an app hands back once it is done. -/
  | boxFuture
  /-- The outcome of registering a conversion. -/
  | registration
  | dynApp
  | legacy
  /-- The erased value itself. -/
  | value
  | componentType
  /-- A component class, told apart by its number. -/
  | component (cls : Nat)
  | mapOptions
  | mapMiddleware
  deriving DecidableEq, Repr

/-- The text of an atom. -/
def Atom.name : Atom → String
  | .u8 => "u8"
  | .u16 => "u16"
  | .u32 => "u32"
  | .u64 => "u64"
  | .i64 => "i64"
  | .bool => "bool"
  | .string => "String"
  | .str => "&str"
  | .unit => "()"
  | .optionU32 => "Option<u32>"
  | .optionString => "Option<String>"
  | .token t => t.name
  | .environment => "Environment"
  | .predicate => "Arc<dyn Fn(&'_ Environment) -> bool + Send + Sync>"
  | .boxFuture => "BoxFuture"
  | .registration => "Result<(), BuildError>"
  | .dynApp => "DynApp"
  | .legacy => "Legacy"
  | .value => "Value"
  | .componentType => "ComponentType"
  | .component cls => "Comp<" ++ toString cls ++ ">"
  | .mapOptions => "MapOptions"
  | .mapMiddleware => "MapMiddleware"

/-- The run-time name of a type. -/
inductive Shape where
  | atom (a : Atom)
  | func (params : List Shape) (out : Shape)

namespace Shape

instance : Inhabited Shape := ⟨.atom .unit⟩

mutual

/-- Shapes are compared by their structure. -/
def decEq : (s t : Shape) → Decidable (s = t)
  | .atom a, .atom b => decidable_of_iff (a = b) ⟨congrArg _, fun h => by injection h⟩
  | .func ps o, .func qs r =>
    match decEqList ps qs, decEq o r with
    | isTrue h, isTrue h' => isTrue (by rw [h, h'])
    | isFalse h, _ => isFalse fun e => h (by injection e)
    | _, isFalse h => isFalse fun e => h (by injection e)
  | .atom _, .func _ _ => isFalse nofun
  | .func _ _, .atom _ => isFalse nofun

/-- The same for lists of shapes. -/
def decEqList : (ps qs : List Shape) → Decidable (ps = qs)
  | [], [] => isTrue rfl
  | p :: ps, q :: qs =>
    match decEq p q, decEqList ps qs with
    | isTrue h, isTrue h' => isTrue (by rw [h, h'])
    | isFalse h, _ => isFalse fun e => h (by injection e)
    | _, isFalse h => isFalse fun e => h (by injection e)
  | [], _ :: _ => isFalse nofun
  | _ :: _, [] => isFalse nofun

end

instance : DecidableEq Shape := decEq

@[match_pattern] abbrev u32 : Shape := .atom .u32
@[match_pattern] abbrev unit : Shape := .atom .unit
@[match_pattern] abbrev value : Shape := .atom .value
@[match_pattern] abbrev dynApp : Shape := .atom .dynApp
@[match_pattern] abbrev legacy : Shape := .atom .legacy

/-- Functions from numbers to numbers. -/
abbrev numFn : Shape := .func [.atom .u32] (.atom .u32)

/-- Apps written as functions of the environment. -/
abbrev appFunc : Shape := .func [.atom .environment] (.atom .boxFuture)

/-- Tests on an environment. -/
abbrev predicate : Shape := .atom .predicate

mutual

/-- The text of a shape. The two function types with a name of their own print as that name; every
other function type prints in full, with a unit result left out. -/
def name : Shape → String
  | .atom a => a.name
  | .func ps o =>
    if Shape.func ps o = numFn then "NumFn"
    else if Shape.func ps o = appFunc then "AppFunc"
    else
      let arrow := if o = unit then "" else " -> " ++ name o
      "Arc<dyn Fn(" ++ String.intercalate ", " (names ps) ++ ")" ++ arrow ++ " + Send + Sync>"

/-- The texts of a list of shapes. -/
def names : List Shape → List String
  | [] => []
  | p :: ps => name p :: names ps

end

instance : ToString Shape := ⟨name⟩

/-- The text of a shape in listings. -/
def debug (s : Shape) : String := "Shape(" ++ Text.quoted s.name ++ ")"

end Shape

end Pipework
