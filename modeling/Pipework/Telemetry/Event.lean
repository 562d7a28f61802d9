import Pipework.Convention
import Pipework.Stage.Kind

set_option autoImplicit false

/-!
# Log events

## Main definitions

* `Event` — what the engine reports about its work.
* `Event.level`, `Event.message`, `Event.fields` — how an event is written.
-/

namespace Pipework

/-- What the engine reports. -/
inductive Event where
  | registered (source target : Shape)
  | converted (source : Shape) (target : Convention) (hops : Nat)
  | noConversion (source : Shape) (target : Convention)
  | stageAdded (index : Nat) (kind : StageKind) (convention : Convention) (descriptor : String)
  | middlewareAdded (name : String)
  | built (stages : Nat) (target : Convention)
  | bootstrapped (app environment : String) (properties : Nat)

/-- The importance of an event. -/
inductive Level where
  | debug | trace
  deriving DecidableEq, Repr

/-- The word for a level. -/
def Level.name : Level → String
  | .debug => "DEBUG"
  | .trace => "TRACE"

/-- The value of a field. -/
inductive Field where
  | text (s : String)
  | number (n : Nat)

namespace Event

/-- The importance of an event. -/
def level : Event → Level
  | .converted .. => .trace
  | _ => .debug

/-- The sentence for an event. -/
def message : Event → String
  | .registered .. => "conversion registered"
  | .converted .. => "conversion applied"
  | .noConversion .. => "no conversion available"
  | .stageAdded .. => "stage added"
  | .middlewareAdded .. => "adding middleware"
  | .built .. => "pipeline built"
  | .bootstrapped .. => "builder bootstrapped"

/-- The details of an event. -/
def fields : Event → List (String × Field)
  | .registered source target => [("source", .text source.name), ("target", .text target.name)]
  | .converted source target hops =>
    [("source", .text source.name), ("target", .text target.display), ("hops", .number hops)]
  | .noConversion source target =>
    [("source", .text source.name), ("target", .text target.display)]
  | .stageAdded index kind convention descriptor =>
    [("index", .number index), ("shape", .text kind.word), ("convention", .text convention.display),
      ("descriptor", .text descriptor)]
  | .middlewareAdded name => [("middleware", .text name)]
  | .built stages target => [("stages", .number stages), ("target", .text target.display)]
  | .bootstrapped app environment properties =>
    [("app", .text app), ("environment", .text environment), ("properties", .number properties)]

end Event

end Pipework
