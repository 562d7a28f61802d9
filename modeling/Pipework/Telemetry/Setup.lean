import Pipework.Telemetry.Filter
import Pipework.Telemetry.Format

set_option autoImplicit false

/-!
# Setting telemetry up

The log and the metrics recorder each have one place in the process, which takes one installation
and refuses every later one.

## Main definitions

* `LogConfig`, `TelemetryConfig` — what is asked for.
* `Installed` — which places are taken.
* `Setup.logging`, `Setup.metrics`, `Setup.telemetry` — taking them.
-/

namespace Pipework

/-- What is asked of the log. -/
structure LogConfig where
  enabled : Bool
  /-- The filter of the events that are written. -/
  level : String
  format : LogFormat
  /-- Whether the place in the program is written. -/
  location : Bool
  /-- Whether the target of an event is written. -/
  target : Bool
  deriving DecidableEq, Repr

namespace LogConfig

/-- What is asked of the log if nothing else is said. -/
def standard : LogConfig := ⟨true, "info", .standard, false, true⟩

/-- For work on the program: more events, written for people, with their places. -/
def development : LogConfig :=
  { standard with level := "debug", format := .pretty, location := true }

/-- For a program in use. -/
def production : LogConfig := standard

end LogConfig

/-- What is asked of telemetry. -/
structure TelemetryConfig where
  logging : LogConfig
  /-- Whether metrics are recorded. -/
  metrics : Bool
  deriving DecidableEq, Repr

/-- Which places are taken. -/
structure Installed where
  logging : Bool
  metrics : Bool
  deriving DecidableEq, Repr

/-- A computation that takes places and may fail; a place that was taken before a failure stays
taken. -/
abbrev Setup := ExceptT TelemetryError (StateM Installed)

namespace Setup

/-- Checks that a text is a log filter. The reason that the parser of filters gives for a refusal,
which comes behind the colon, is left out. -/
def checkFilter (s : String) : Except TelemetryError Unit :=
  if Filter.isValid s then .ok () else .error (.logging "invalid log level: ")

/-- Takes the place of the log. -/
def logging (c : LogConfig) : Setup Unit := do
  if c.enabled then
    ExceptT.mk (pure (checkFilter c.level))
    let taken ← get
    if taken.logging then
      throw (.logging "a global default trace dispatcher has already been set")
    set { taken with logging := true }

/-- Takes the place of the metrics recorder. -/
def metrics (enabled : Bool) : Setup Unit := do
  if enabled then
    let taken ← get
    if taken.metrics then
      throw (.metrics ("failed to install exporter as global recorder: attempted to set a " ++
        "recorder after the metrics system was already initialized"))
    set { taken with metrics := true }

/-- Takes the places that are asked for, that of the log first. -/
def telemetry (c : TelemetryConfig) : Setup Unit := do
  logging c.logging
  metrics c.metrics

/-- The result of taking places while `taken` are taken. -/
def outcome (x : Setup Unit) (taken : Installed) : Except TelemetryError Unit :=
  (x.run.run taken).1

end Setup

end Pipework
