import Pipework.Session.Step

set_option autoImplicit false

/-!
# Running programs

## Main definitions

* `Program` — the state of the engine together with the named builders.
* `Step.run`, `runAll` — taking steps.

## Implementation notes

`Step.run` takes the builder that the step works on and gives it back. A step inside a mount works
on the branch, which has no name; the outermost steps work on the builder named `root`. What a step
makes of the builder of a name becomes the builder of that name, unless the step itself gives the
name to another builder.
-/

namespace Pipework.Session

/-- The state of a running program. -/
structure Program where
  state : State
  builders : OrderedMap String Builder

/-- A computation in a running program. -/
abbrev Run := StateM Program

/-- Runs a computation on the state of the engine. -/
def engine {α : Type} (x : Engine α) : Run α :=
  modifyGet fun s =>
    let (a, state) := x.run s.state
    (a, { s with state := state })

/-- Runs a computation on the state of the engine that may fail. -/
def assembly {α : Type} (x : Assembly α) : Run (Except BuildError α) := engine x.run

/-- What a value shows of itself. -/
def view (v : Value) : Engine View := do
  let text ← v.render
  pure ⟨v.shape, v.describe, text⟩

/-- Stores a value under a name, if there is one. -/
def store (name : Option String) (v : Value) : Engine Unit :=
  match name with
  | some n => modify fun s => { s with vars := s.vars.insert n v }
  | none => pure ()

/-- Answers with a value that is stored under a name. -/
def answerValue (name : Option String) (v : Value) : Engine Answer := do
  store name v
  let w ← view v
  pure (.value w)

/-- The values of expressions, from left to right. -/
def evalAll (l : List Expr) : Engine Args := l.mapM Expr.eval

/-- The value of a variable. -/
def lookup (name : String) : Engine (Option Value) := do
  let s ← get
  pure (s.vars.get? name)

/-! ## Steps without branches -/

/-- Takes a step on a property bag. -/
def runProperty (p : BagId) : PropertyStep → Engine Answer
  | .get name key => do
    let s ← get
    match (s.bag p).get? key with
    | some v => do
      store name v
      let w ← view v
      pure (.property (some w))
    | none => pure (.property none)
  | .getAs key type => do
    let s ← get
    pure (.propertyIs (((s.bag p).get? key).bind fun v => v.get? type).isSome)
  | .set key e => do
    let v ← e.eval
    let old ← Engine.setProperty p key v
    previous old
  | .remove key => do
    let old ← Engine.removeProperty p key
    previous old
  | .has key => do
    let s ← get
    pure (.has ((s.bag p).contains key))
  | .keys => do
    let s ← get
    pure (.keys (s.bag p).keys)
where
  /-- Answers with the property that was there before. -/
  previous : Option Value → Engine Answer
    | some v => do
      let w ← view v
      pure (.previous (some w))
    | none => pure (.previous none)

/-- The view of an optional value. -/
def viewOption : Option Value → Engine (Option View)
  | some v => do
    let w ← view v
    pure (some w)
  | none => pure none

/-- Inspects a value. -/
def runInspect (v : Value) (fits : List Shape) (satisfies : List Convention) (types : List Shape) :
    Engine Answer := do
  let w ← view v
  let component ← match v with
    | .component i => do
      let c ← viewOption i.callable?
      pure (some ⟨i.operations, c⟩)
    | _ => pure none
  let componentType := match v with
    | .componentType t => some t
    | _ => none
  pure (.inspected
    { view := w
      debug := v.debug
      invocable := v.isInvocable
      convention := v.convention?
      fits := fits.map v.fits
      satisfies := satisfies.map v.satisfies
      types := types.map fun t => (decide (v.shape = t), (v.get? t).isSome)
      component := component
      componentType := componentType })

/-- The text of an argument taken for a type. -/
def runExtract (args : Args) (index : Nat) (type : Shape) : Engine (Except BuildError String) :=
  match extractAt args index type with
  | .ok c => do
    let text ← c.render
    pure (.ok text)
  | .error e => pure (.error e)

/-- Inspects an argument list. -/
def runArguments (args : Args) (fits : Option (List (List Shape)))
    (extract : Option (List (Nat × Shape))) (front : Option Value) (index : Option Nat) :
    Engine Answer := do
  let extracted ← match extract with
    | some l => some <$> l.mapM fun x => runExtract args x.1 x.2
    | none => pure none
  let found ← match index with
    | some i => some <$> viewOption args[i]?
    | none => pure none
  pure (.arguments
    { args := args
      fits := fits.map fun l => l.map fun params => args.fits params
      extracted := extracted
      extended := front.map fun v => Args.shapes (v :: args)
      found := found })

/-- Calls an operation, and tells whether it accepts the arguments. -/
def runOperation (args : Args) (o : Operation) : Engine (Bool × Except BuildError View) := do
  match ← (o.value.invoke args).run with
  | .ok out => do
    let w ← view out
    pure (o.accepts args, .ok w)
  | .error e => pure (o.accepts args, .error e)

/-- Calls every operation of a name. -/
def runOperations (v : Value) (name : String) (args : Args) : Engine Answer := do
  let ops := match v.component? with
    | some i => i.named name
    | none => []
  let results ← ops.mapM (runOperation args)
  let text ← v.render
  pure (.operations results text)

/-- Registers a conversion through the callable in a property bag, if the bag has one. -/
def registerByBag (p : BagId) (v : Value) : Assembly (Option Unit) := do
  let s ← get
  let registrar := (s.bag p).get? addConversionKey
  match registrar.bind fun r => r.get? (.func [.value] (.atom .registration)) with
  | some (.routine (.register r)) => do
    Assembly.register r v
    pure (some ())
  | _ => pure none

/-- Answers with the number of edges of a registry. -/
def countEdges (r : RegistryId) : Assembly Answer := do
  let s ← get
  pure (.count (s.registry r).size)

/-- Registers a conversion of a builder. -/
def runAdd (b : Builder) (e : Expr) (route : Route) : Assembly Answer := do
  let v ← e.eval
  match route with
  | .direct => do
    Assembly.register b.conversions v
    countEdges b.conversions
  | .bag => do
    match ← registerByBag b.properties v with
    | some _ => countEdges b.conversions
    | none => pure .nothing

/-- The edges of the registry that a conversion step asks for. -/
def chosenEdges (r : RegistryId) : RegistryChoice → Engine (List Conversion)
  | .own => do
    let s ← get
    pure (s.registry r).edges
  | .bare => pure []
  | .builtin => do
    Engine.report (.registered Conversion.toObject.source Conversion.toObject.target)
    Engine.report (.registered Conversion.toFunc.source Conversion.toFunc.target)
    pure Registry.builtin.edges

/-- Resolves a stage and makes the wrapped app from `next`, if it is given. -/
def runResolve (name : Option String) (d : Value) (args : Args) (next : Option Value) :
    Assembly Answer := do
  let stage ← Assembly.ofExcept (Stage.resolve d args)
  let descriptor := "MiddlewareDescriptor(" ++ d.debug ++ ")"
  match next with
  | none => pure (.resolved stage descriptor none)
  | some n =>
    match ← (stage.apply n).attempt with
    | .ok out => do
      store name out
      let w ← view out
      pure (.resolved stage descriptor (some (.ok w)))
    | .error e => pure (.resolved stage descriptor (some (.error e)))

/-- Constructs a component. -/
def runConstruct (name : Option String) (v : Value) (args : Args) : Assembly Answer :=
  match v with
  | .componentType t => do
    let out ← t.construct args
    store name out
    let w ← view out
    pure (.constructed w ((t.findCtor args).getD []))
  | _ => pure .nothing

/-- Takes a step that changes nothing about the builder it works on. -/
def runPlain (b : Builder) : Step → Assembly Answer
  | .value name e => do
    let v ← e.eval
    answerValue name v
  | .resolve name d args next => do
    let d ← d.eval
    let args ← evalAll args
    let next ← match next with
      | some n => some <$> n.eval
      | none => pure none
    runResolve name d args next
  | .apply name index next => do
    let next ← next.eval
    match b.stages[index]? with
    | some stage => do
      let out ← stage.apply next
      answerValue name out
    | none => pure .nothing
  | .add e route => runAdd b e route
  | .edges => do
    let s ← get
    pure (.edges (s.registry b.conversions))
  | .accepts e => do
    let v ← e.eval
    let s ← get
    pure (.accepts ((s.registry b.conversions).edges.map fun c => c.accepts v))
  | .convert name e target registry => do
    let v ← e.eval
    let edges ← chosenEdges b.conversions registry
    let out ← convert edges v target
    answerValue name out
  | .buildValue name target => do
    let out ← b.buildValue target
    answerValue name out
  | .build name type => do
    let c ← b.build type
    answerValue name (.bound c)
  | .call var env => do
    let v ← lookup var
    match env, v.bind Value.asApp? with
    | none, _ => pure .invalidRequest
    | some _, none => pure .nothing
    | some e, some a => do
      let s ← get
      pure (.environment (s.serve a e))
  | .callNum var xs => do
    let v ← lookup var
    match v.bind Value.asNum? with
    | some n => do
      let ys ← xs.mapM fun x => (n.eval x : Engine UInt32)
      pure (.numbers ys)
    | none => pure .nothing
  | .stages => pure (.stages b.stages)
  | .debug => do
    let s ← get
    pure (.debug (b.debug s) (debugStages b.stages) (Bag.debug (s.bag b.properties)))
  | .property p => runProperty b.properties p
  | .metrics => do
    let s ← get
    pure (.metrics s.tally)
  | .logs => do
    let s ← get
    set { s with events := [] }
    pure (.logs s.events)
  | .inspect e fits satisfies types => do
    let v ← e.eval
    runInspect v fits satisfies types
  | .invoke name e args => do
    let v ← e.eval
    let args ← evalAll args
    let out ← v.invoke args
    answerValue name out
  | .construct name e args => do
    let v ← e.eval
    let args ← evalAll args
    runConstruct name v args
  | .arguments args fits extract front index => do
    let args ← evalAll args
    let front ← match front with
      | some e => some <$> e.eval
      | none => pure none
    runArguments args fits extract front index
  | .operation e name args => do
    let v ← e.eval
    let args ← evalAll args
    runOperations v name args
  | _ => pure .nothing

/-- Takes a step that adds a stage to the builder it works on. -/
def runStage (b : Builder) : Step → Assembly (Builder × Answer)
  | .use d args => do
    let d ← d.eval
    let args ← evalAll args
    let b' ← b.useStage d args
    match b'.stages.getLast? with
    | some stage => pure (b', .staged b'.stages.length stage)
    | none => pure (b', .nothing)
  | .useFunc f => do
    let b' ← b.useStage (.callable (.func f none)) []
    pure (b', .count b'.stages.length)
  | .useMiddleware name acts => do
    let b' ← b.useMiddleware name acts
    pure (b', .middleware name b'.stages.length)
  | .handle handler => do
    let b' ← b.run (.leaf handler)
    pure (b', .count b'.stages.length)
  | _ => pure (b, .nothing)

/-- Takes a step on the named builders. -/
def runNamed (b : Builder) : Step → Run Answer
  | .make name => do
    let new ← engine Builder.make
    modify fun s => { s with builders := s.builders.insert name new }
    let s ← get
    pure (.made (new.debug s.state))
  | .clone name => do
    modify fun s => { s with builders := s.builders.insert name b }
    pure .cloned
  | .branch name => do
    modify fun s => { s with builders := s.builders.insert name b.branch }
    pure (.branched (b.branch.sameBag b) (b.branch.sameRegistry b) b.branch.stages.length)
  | .same name => do
    let s ← get
    match s.builders.get? name with
    | some c => pure (.same (b.sameBag c) (b.sameRegistry c))
    | none => pure .nothing
  | _ => pure .nothing

/-- The name that a step gives to a builder. -/
def Step.gives? : Step → Option String
  | .make name => some name
  | .clone name => some name
  | .branch name => some name
  | _ => none

/-! ## All steps -/

/-- The calls since the last look at them. -/
def takeCalls : Run (List String) :=
  modifyGet fun s => (s.state.calls, { s with state := { s.state with calls := [] } })

/-- Ends a step with the calls that it made. -/
def conclude (outcome : Except BuildError Answer) (inner : List Report) : Run Report := do
  let calls ← takeCalls
  pure (.mk outcome inner calls)

/-- The failure of a step. -/
def Report.failure? : Report → Option BuildError
  | .mk (.error e) _ _ => some e
  | .mk (.ok _) _ _ => none

/-- A computation that configures a branch. It fails with the first step that fails, and keeps the
reports on the steps it has taken. -/
abbrev Configure := ExceptT BuildError (StateT (List Report) Run)

instance : MonadLift Assembly Configure where
  monadLift x := ExceptT.mk (StateT.lift (assembly x))

/-- Ends a step that mounts a branch. -/
def concludeMount (b : Builder) (x : Configure Builder) : Run (Builder × Report) := do
  let (result, inner) ← (x.run).run []
  match result with
  | .ok b' => do
    let r ← conclude (.ok (.count b'.stages.length)) inner
    pure (b', r)
  | .error e => do
    let r ← conclude (.error e) inner
    pure (b, r)

/-- Takes a step on the named builders and ends it. -/
def named (b : Builder) (step : Step) : Run (Builder × Report) := do
  let answer ← runNamed b step
  let r ← conclude (.ok answer) []
  pure (b, r)

/-- Takes a step that adds a stage and ends it. -/
def staged (b : Builder) (step : Step) : Run (Builder × Report) := do
  match ← assembly (runStage b step) with
  | .ok (b', answer) => do
    let r ← conclude (.ok answer) []
    pure (b', r)
  | .error e => do
    let r ← conclude (.error e) []
    pure (b, r)

mutual

/-- Takes a step on a builder. -/
def Step.run (b : Builder) : Step → Run (Builder × Report)
  | .on name step => do
    let s ← get
    match s.builders.get? name with
    | some c => do
      let (c', r) ← step.run c
      unless step.gives? = some name do
        modify fun s => { s with builders := s.builders.insert name c' }
      pure (b, r)
    | none => do
      let r ← conclude (.ok .nothing) []
      pure (b, r)
  | .map path steps => concludeMount b (b.map path fun branch => configure branch steps)
  | .mapWhen c steps => concludeMount b (b.mapWhen c fun branch => configure branch steps)
  | .make name => named b (.make name)
  | .clone name => named b (.clone name)
  | .branch name => named b (.branch name)
  | .same name => named b (.same name)
  | .use d args => staged b (.use d args)
  | .useFunc f => staged b (.useFunc f)
  | .useMiddleware name acts => staged b (.useMiddleware name acts)
  | .handle handler => staged b (.handle handler)
  | step => do
    let outcome ← assembly (runPlain b step)
    let r ← conclude outcome []
    pure (b, r)

/-- Takes the steps that configure a branch. -/
def configure (b : Builder) : List Step → Configure Builder
  | [] => pure b
  | step :: steps => do
    let (b', r) ← (step.run b : Run (Builder × Report))
    modifyThe (List Report) fun inner => inner ++ [r]
    match r.failure? with
    | some e => throw e
    | none => configure b' steps

end

/-- Takes steps on named builders one after the other. -/
def runAll (steps : List Step) : Run (List Report) :=
  steps.mapM fun step => do
    let (_, r) ← step.run .bareRoot
    pure r

/-- The name of the builder that a program starts with. -/
def rootName : String := "root"

/-- The reports on the steps of a program that starts with the builder that `boot` makes. -/
def startWith (boot : Engine Builder) (steps : List Step) : List Report :=
  let (root, state) := boot.run State.initial
  (runAll steps |>.run ⟨state, OrderedMap.ofList [(rootName, root)]⟩).1

/-- The properties of the builder that `boot` makes. -/
def seeded (boot : Engine Builder) : List (String × View) :=
  let (b, state) := boot.run State.initial
  (state.bag b.properties).entries.map fun e => (e.1, ((view e.2).run state).1)

/-- The reports on the steps of a program that starts with a new builder. -/
def start (steps : List Step) : List Report := startWith Builder.make steps

end Pipework.Session
