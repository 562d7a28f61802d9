import Pipework.Engine.Component

set_option autoImplicit false

/-!
# Bringing a value to a convention

A value that does not have the type of the target is brought there along the edges of a registry.
The search looks one edge ahead from the value, and one edge ahead from the end of every edge that
the value can be brought to; it takes the first way that works and never goes back on a conversion
that it has made. A component can also be replaced by one of its `Invoke` operations.

## Main definitions

* `boundInvoke?` — the operation by which a component stands for a callable convention.
* `oneHop` — a value as it is, as one of its operations, or behind one edge.
* `convert` — the search.
-/

namespace Pipework

/-- The first `Invoke` operation of a component that is a callable of the convention. -/
def boundInvoke? (v : Value) (target : Convention) : Option Value :=
  v.component?.bind fun i =>
    ((i.named invokeName).find? fun o =>
      o.convention.isCallable && o.convention.agrees target).map Operation.value

/-- Sends a value along an edge. -/
def Conversion.apply (c : Conversion) (v : Value) : Assembly Value := c.routine.invoke [v]

/-- The first edge that leads from a value to a convention. -/
def directEdge? (edges : List Conversion) (v : Value) (target : Convention) : Option Conversion :=
  edges.find? fun c => c.target = target.handle && c.accepts v

/-- Brings a value to a convention without passing through another type, and tells how many edges
that took. -/
def oneHop (edges : List Conversion) (v : Value) (target : Convention) :
    Assembly (Option (Value × Nat)) :=
  if v.satisfies target then pure (some (v, 0))
  else
    match boundInvoke? v target with
    | some o => pure (some (o, 0))
    | none =>
      match directEdge? edges v target with
      | some c => do
        let out ← c.apply v
        pure (some (out, 1))
      | none => pure none

/-- Brings a value to the start of an edge. -/
def approach (edges : List Conversion) (v : Value) (c : Conversion) :
    Assembly (Option (Value × Nat)) :=
  if c.accepts v then pure (some (v, 0)) else oneHop edges v (.object c.source)

/-- Tries the edges of `rest` in order as the middle of a way. -/
def through (edges : List Conversion) (v : Value) (target : Convention) :
    (rest : List Conversion) → Assembly (Option (Value × Nat))
  | [] => pure none
  | c :: rest => do
    match ← approach edges v c with
    | none => through edges v target rest
    | some (staged, pre) =>
      let middle ← c.apply staged
      match ← oneHop edges middle target with
      | some (out, post) => pure (some (out, pre + 1 + post))
      | none => through edges v target rest

/-- The way of a value to a convention: in one hop, or through the first edge that allows it. -/
def search (edges : List Conversion) (v : Value) (target : Convention) :
    Assembly (Option (Value × Nat)) := do
  match ← oneHop edges v target with
  | some found => pure (some found)
  | none => through edges v target edges

/-- Brings a value to a convention along edges, and reports and counts the outcome. -/
def convert (edges : List Conversion) (v : Value) (target : Convention) : Assembly Value := do
  match ← search edges v target with
  | some (out, hops) =>
    Engine.report (.converted v.shape target hops)
    Engine.raise (.conversion hops) 1
    pure out
  | none =>
    Engine.report (.noConversion v.shape target)
    Engine.raise .conversionFailure 1
    throw (.noConversion v.shape target)

/-- Brings a value to a convention along the edges that a registry has at this moment. -/
def convertIn (r : RegistryId) (v : Value) (target : Convention) : Assembly Value := do
  let s ← get
  convert (s.registry r).edges v target

end Pipework
