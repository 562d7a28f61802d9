import Pipework.Conversion.Search
import Pipework.Stage.Basic

set_option autoImplicit false

/-!
# Builders

A builder collects stages and puts them together: starting from the terminal app, it applies the
stages from the last one to the first, and brings the app before and after every stage to the
convention that the stage declares. A builder shares its property bag and its registry with its
branches and clones.

## Main definitions

* `Builder` — the stages of a builder, with its bag and its registry; `Builder.make`,
  `Builder.branch`.
* `Builder.useStage`, `Builder.run`, `Builder.map`, `Builder.mapWhen` — adding stages.
* `Builder.buildValue`, `Builder.build`, `Builder.buildApp` — putting the stages together.
-/

namespace Pipework

/-- The property that holds the terminal app. -/
def defaultAppKey : String := "builder.DefaultApp"

/-- The property that holds a callable which registers conversions. -/
def addConversionKey : String := "builder.AddSignatureConversion"

/-- The app at the end of a pipeline without any other. -/
def notFoundValue : Value := .bound (.app .func .notFound)

/-- A list of stages with a property bag and a registry, which other builders may share. -/
structure Builder where
  properties : BagId
  conversions : RegistryId
  /-- The stages in the order in which they were added. -/
  stages : List Stage

namespace Builder

/-- The bag of a new builder: the callable that registers conversions, and the terminal app. -/
def seededBag (r : RegistryId) : Bag :=
  OrderedMap.ofList [(addConversionKey, .callable (.register r)), (defaultAppKey, notFoundValue)]

/-- Makes a builder with a bag and a registry of its own. -/
def make : Engine Builder := do
  Engine.report (.registered Conversion.toObject.source Conversion.toObject.target)
  Engine.report (.registered Conversion.toFunc.source Conversion.toFunc.target)
  modifyGet fun s =>
    let r := s.registries.length
    (⟨s.bags.length, r, []⟩, { s with
      bags := s.bags ++ [seededBag r]
      registries := s.registries ++ [.builtin] })

/-- The root builder without its stages. -/
def bareRoot : Builder := ⟨State.rootBag, State.rootRegistry, []⟩

/-- A builder with the same bag and the same registry, without stages. -/
def branch (b : Builder) : Builder := ⟨b.properties, b.conversions, []⟩

/-- Whether two builders have the same bag. -/
def sameBag (b c : Builder) : Bool := b.properties = c.properties

/-- Whether two builders have the same registry. -/
def sameRegistry (b c : Builder) : Bool := b.conversions = c.conversions

/-- Adds the stage that a value describes. -/
def useStage (b : Builder) (v : Value) (args : Args) : Assembly Builder := do
  let stage ← Assembly.ofExcept (Stage.resolve v args)
  Engine.report (.stageAdded b.stages.length stage.kind stage.convention stage.description)
  Engine.raise (.stage stage.kind) 1
  pure { b with stages := b.stages ++ [stage] }

/-- Adds a stage that runs actions around the next app. -/
def useMiddleware (b : Builder) (name : String) (acts : List Action) : Assembly Builder := do
  Engine.report (.middlewareAdded name)
  b.useStage (.callable (.layer ⟨name, some acts⟩)) []

/-- Adds a stage that answers every request that reaches it. -/
def run (b : Builder) (handler : App) : Assembly Builder :=
  b.useStage (.callable (.handler handler)) []

/-- The terminal app of a builder. -/
def terminal (b : Builder) (s : State) : Value :=
  ((s.bag b.properties).get? defaultAppKey).getD notFoundValue

/-- Puts stages around an app, the last stage of the list first. -/
def fold (r : RegistryId) : (reversed : List Stage) → Value → Assembly Value
  | [], app => pure app
  | stage :: rest, app => do
    let next ← convertIn r app stage.convention
    let made ← stage.apply next
    let app ← convertIn r made stage.convention
    fold r rest app

/-- Builds the pipeline as a value of a convention. -/
def buildValue (b : Builder) (target : Convention) : Assembly Value := do
  let s ← get
  let app ← fold b.conversions b.stages.reverse (b.terminal s)
  let app ← convertIn b.conversions app target
  Engine.report (.built b.stages.length target)
  Engine.raise (.build target.kind) 1
  Engine.raise (.buildDuration target.kind) 1
  Engine.raise .buildStages 1
  Engine.raise .stagesBuilt b.stages.length
  pure app

/-- Builds the pipeline as a handle of a type. -/
def build (b : Builder) (type : Shape) : Assembly Content := do
  let target := Convention.ofShape type
  let v ← b.buildValue target
  match v.get? type with
  | some c => pure c
  | none => throw (.noConversion v.shape target)

/-- Builds the pipeline as an app. What is built for this type is always an app; the last case makes
the function total. -/
def buildApp (b : Builder) : Assembly App := do
  match ← b.build .appFunc with
  | .app _ a => pure a
  | _ => pure .notFound

/-- Checks the path of a mount. -/
def checkMount (path : String) : Except BuildError Unit :=
  (Route.check path).mapError fun fault => .invalidArgument "path" fault.message

/-- Adds the branch `branch`, already configured, under a path. -/
def mount (b : Builder) (path : String) (branch : Builder) : Assembly Builder := do
  let app ← branch.buildApp
  b.useStage (.componentType .mount) [.data (.mapOptions path app)]

/-- Adds the branch `branch`, already configured, for requests that meet a test. -/
def mountWhen (b : Builder) (c : Cond) (branch : Builder) : Assembly Builder := do
  let app ← branch.buildApp
  b.useStage (.callable .choose) [.data (.predicate c), .data (.app .func app)]

/-- Mounts a branch under a path. The branch is configured by `configure`, which may fail. -/
def map {m : Type → Type} [Monad m] [MonadLiftT Assembly m] (b : Builder) (path : String)
    (configure : Builder → m Builder) : m Builder := do
  liftM (Assembly.ofExcept (checkMount path))
  let branch ← configure b.branch
  liftM (b.mount path branch)

/-- Mounts a branch for requests that meet a test. -/
def mapWhen {m : Type → Type} [Monad m] [MonadLiftT Assembly m] (b : Builder) (c : Cond)
    (configure : Builder → m Builder) : m Builder := do
  let branch ← configure b.branch
  liftM (b.mountWhen c branch)

/-- The text of a builder in listings. -/
def debug (b : Builder) (s : State) : String :=
  let size := (s.registry b.conversions).size
  let keys := (s.bag b.properties).keys.map Text.quoted
  s!"AppBuilder \x7b stages: {b.stages.length}, conversions: {size}, properties: [" ++
    String.intercalate ", " keys ++ "] \x7d"

end Builder

/-- The text of a property bag in listings. -/
def Bag.debug (bag : Bag) : String :=
  let entries := bag.entries.map fun e => Text.quoted e.1 ++ ": " ++ e.2.debug
  "\x7b" ++ String.intercalate ", " entries ++ "\x7d"

end Pipework
