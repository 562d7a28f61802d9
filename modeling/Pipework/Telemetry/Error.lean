set_option autoImplicit false

/-!
# Why telemetry cannot be set up

## Main definitions

* `TelemetryError` — the causes, with the text of each in `TelemetryError.message`.
-/

namespace Pipework

/-- The causes for which telemetry is not set up. -/
inductive TelemetryError where
  | metrics (reason : String)
  | logging (reason : String)
  | invalidConfig (reason : String)
  deriving DecidableEq, Repr

/-- The text of a cause. -/
def TelemetryError.message : TelemetryError → String
  | .metrics reason => "Failed to initialize metrics: " ++ reason
  | .logging reason => "Failed to initialize logging: " ++ reason
  | .invalidConfig reason => "Invalid configuration: " ++ reason

end Pipework
