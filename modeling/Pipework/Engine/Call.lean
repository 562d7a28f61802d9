import Pipework.Engine.State

set_option autoImplicit false

/-!
# Running code

Evaluating expressions, running functions of the program, and calling values with erased arguments.

## Main definitions

* `Expr.eval` — the value of an expression; every component written down gets a state of its own.
* `Num.eval` — applying a number function.
* `Content.render`, `Value.render` — the text of a value; a number function shows its value at one.
* `Func.run`, `Routine.run`, `Value.invoke` — calls.

## Implementation notes

A number function may lead to the state of a component and from there to another one. How many
states it may pass through has a fixed bound, as a stack of calls has, and does not depend on how
many components there are. Other than an app, a number function takes the same way for every number,
so that a chain that came back to a component would never end.
-/

namespace Pipework

/-! ## Expressions -/

/-- The value of an expression. A variable that is not set has the unit value. -/
def Expr.eval : Expr → Engine Value
  | .datum d => pure (.data (.datum d))
  | .func f true => pure (.callable (.func f none))
  | .func f false => pure (.bound (.routine (.func f none)))
  | .app form layer true => pure (.data (.app form (.leaf layer)))
  | .app form layer false => pure (.bound (.app form (.leaf layer)))
  | .numData mul add => pure (.data (.routine (.num (.linear mul add))))
  | .num mul add true => pure (.callable (.num (.linear mul add)))
  | .num mul add false => pure (.bound (.routine (.num (.linear mul add))))
  | .value inner => do
    let v ← inner.eval
    pure (.data (.value v))
  | .component cls label ops none => do
    let cell ← Engine.newCell []
    pure (.component (.crafted cls label ops none cell))
  | .component cls label ops (some callable) => do
    let v ← callable.eval
    let cell ← Engine.newCell []
    pure (.component (.crafted cls label ops (some v) cell))
  | .componentData label ops => do
    let cell ← Engine.newCell []
    pure (.data (.component (.crafted 0 label ops none cell)))
  | .componentType cls label ops ctors => pure (.componentType (.crafted cls label ops ctors))
  | .mountType => pure (.componentType .mount)
  | .mapOptions path layer => pure (.data (.mapOptions path (.leaf layer)))
  | .var name => do
    let s ← get
    pure ((s.vars.get? name).getD (.data (.datum .unit)))

/-! ## The effects of a function -/

/-- What a run of a function does besides its result: a line in the call log, conversions at the
root, and properties at the root. A function that is no conversion is not registered. -/
def Func.effects (f : Func) (trace : String) : Engine Unit := do
  Engine.logCall trace
  f.registers.forM fun g =>
    match Conversion.ofRoutine (.func g none) with
    | .ok c => Engine.addConversion State.rootRegistry c
    | .error _ => pure ()
  f.writes.forM fun w => do
    let v ← w.2.eval
    discard (Engine.setProperty State.rootBag w.1 v)

/-! ## Number functions -/

namespace Num

/-- Thirty-one times a number, plus a step. -/
def advance (step x : UInt32) : UInt32 := x * 31 + step

/-- The length of a text in bytes, as a number. -/
def ofLength (s : String) : UInt32 := UInt32.ofNat s.utf8ByteSize

/-- Applies a number function; `held` applies the one that a component holds. -/
def evalWith (held : CellId → UInt32 → Engine UInt32) : Num → UInt32 → Engine UInt32
  | .linear mul add, x => pure (x * mul + add)
  | .func f, x => do
    let trace := f.label ++ "(" ++ toString x ++ ")"
    f.effects trace
    pure (ofLength trace)
  | .over step base, x => do
    let y ← evalWith held base x
    pure (advance step y)
  | .plain step, x => pure (advance step x)
  | .resumed step cell, x => do
    let y ← held cell x
    pure (advance step y)

/-- Applies the number function that a component holds, passing through at most `depth` states. A
component without one leaves the number as it is. -/
def evalHeld : (depth : Nat) → CellId → UInt32 → Engine UInt32
  | 0, _, x => pure x
  | depth + 1, cell, x => do
    let s ← get
    match s.heldNum cell with
    | some n => n.evalWith (evalHeld depth) x
    | none => pure x

/-- How many component states a number function may pass through. No stack holds as many calls. -/
def passLimit : Nat := 1000000

/-- Applies a number function. -/
def eval (n : Num) (x : UInt32) : Engine UInt32 := n.evalWith (evalHeld passLimit) x

end Num

/-! ## The text of a value -/

/-- The text of a routine. -/
def Routine.render (r : Routine) : Engine String :=
  match r.num? with
  | some n => do
    let y ← n.eval 1
    pure ("num:" ++ toString y)
  | none => pure "fn"

/-- The text of the options of a mounted branch. -/
def renderMapOptions (path : String) : String :=
  "MapOptions \x7b path_match: " ++ Text.quoted path ++ ", .. \x7d"

mutual

/-- The text of what a value holds. -/
def Content.render : Content → Engine String
  | .datum d => pure d.render
  | .routine r => r.render
  | .app form _ => pure form.shape.name
  | .value v => do
    let s ← v.render
    pure ("<" ++ s ++ ">")
  | .component i => i.render
  | .mapOptions path _ => pure (renderMapOptions path)
  | .predicate _ => pure "opaque"
  | .registration _ => pure "opaque"

/-- The text of a value. -/
def Value.render : Value → Engine String
  | .data c => c.render
  | .bound c => c.render
  | .callable r => r.render
  | .component i => i.render
  | .componentType _ => pure "type"

/-- The text of a component: its class, its label and its state. -/
def Instance.render : Instance → Engine String
  | .crafted cls label _ _ cell => do
    let s ← get
    pure ((Atom.component cls).name ++ "\x7b" ++ label ++ "|" ++ s.cellText cell ++ "\x7d")
  | .mount _ _ _ => pure "opaque"

end

/-- Arguments with their texts, as a component keeps them. -/
def hold (args : List Content) : Engine (List Held) :=
  args.mapM fun c => do
    let text ← c.render
    pure ⟨c, text⟩

/-- The line for a call in the call log. -/
def callLine (label : String) (args : List Held) : String :=
  label ++ "(" ++ String.intercalate "," (args.map Held.text) ++ ")"

/-! ## Calls -/

/-- A layer around an app, if there is one. -/
def Layer.around (l : Layer) : Option App → App
  | some a => .over l a
  | none => .leaf l

/-- An app in the type that is asked for. Objects and wrappers delegate to the function inside. -/
def AppForm.wrap (form : AppForm) (a : App) : Content :=
  match form with
  | .func => .app .func a
  | .object => .app .object (.delegate a)
  | .legacy => .app .legacy (.delegate a)

/-- The result of a function whose call is written as `trace`. -/
def Func.result (f : Func) (trace : String) (args : List Held) : Engine Content :=
  match f.out with
  | .token t => pure (.datum (.token t trace))
  | .string => pure (.datum (.string trace))
  | .optionString => pure (.datum (.optionString (some trace)))
  | .u8 => pure (.datum (.u8 (UInt8.ofNat trace.utf8ByteSize)))
  | .u32 => pure (.datum (.u32 (Num.ofLength trace)))
  | .bool => pure (.datum (.bool (trace.utf8ByteSize % 2 = 1)))
  | .unit => pure (.datum .unit)
  | .value => pure (.value (.data (.datum (.string trace))))
  | .numFn =>
    let step := Num.ofLength trace
    match args.findSome? fun h => h.content.num? with
    | some base => pure (.routine (.num (.over step base)))
    | none => pure (.routine (.num (.plain step)))
  | .app form =>
    pure (form.wrap (Layer.around ⟨trace, f.acts⟩ (args.findSome? fun h => h.content.app?)))
  | .component => do
    let cell ← Engine.newCell args
    pure (.component (.crafted 0 trace [] none cell))

/-- Runs a function. An operation that keeps what it is told also makes its arguments the state of
its component. -/
def Func.run (f : Func) (owner : Option CellId) (args : List Content) : Engine Content := do
  let held ← hold args
  let trace := callLine f.label held
  f.effects trace
  match owner with
  | some cell => Engine.setCell cell held
  | none => pure ()
  f.result trace held

/-- Runs a routine on arguments of its parameter types. These are the arguments that have a case
here; the last case makes the function total. -/
def Routine.run : Routine → List Content → Engine Content
  | .func f owner, args => f.run owner args
  | .num n, [.datum (.u32 x)] => do
    let y ← n.eval x
    pure (.datum (.u32 y))
  | .toObject, [.app .func a] => pure (.app .object (.delegate a))
  | .toFunc, [.app .object a] => pure (.app .func (.delegate a))
  | .register registry, [.value v] => do
    match ← (Assembly.register registry v).run with
    | .ok _ => pure (.registration none)
    | .error e => pure (.registration (some e))
  | .layer l, [.app .func a] => pure (.app .func (.over l a))
  | .handler a, _ => pure (.app .func a)
  | .choose, [.app .func next, .predicate c, .app .func branch] =>
    pure (.app .func (.choose c branch next))
  | _, _ => pure (.datum .unit)

/-- Calls a routine with erased arguments. -/
def Routine.invoke (r : Routine) (args : Args) : Assembly Value := do
  let contents ← Assembly.ofExcept (extractAll r.params args)
  let c ← r.run contents
  pure (.data c)

/-- Calls a value with erased arguments. -/
def Value.invoke (v : Value) (args : Args) : Assembly Value :=
  match v.routine? with
  | some r => r.invoke args
  | none =>
    throw (.invalidArgument "callable" s!"{v.describe} cannot be invoked dynamically")

end Pipework
