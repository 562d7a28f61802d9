import Pipework.OrderedMap
import Pipework.Telemetry.Setup

set_option autoImplicit false

/-!
# Configurations

## Main definitions

* `Config` — the settings of a host in four sections.
* `Config.standard`, `Config.development`, `Config.production` — the settings to start from.
* `Config.render` — the settings as a compact document.
* `Config.telemetry` — what the settings ask of telemetry.
-/

namespace Pipework

/-- What the host is called and where it runs. -/
structure HostSection where
  appName : String
  environment : String
  deriving DecidableEq, Repr

/-- How the host logs. -/
structure LoggingSection where
  enabled : Bool
  /-- The filter of the events that are written. -/
  level : String
  format : LogFormat
  /-- Whether the place in the program is written. -/
  includeLocation : Bool
  deriving DecidableEq, Repr

/-- Whether the host records metrics. -/
structure MetricsSection where
  enabled : Bool
  deriving DecidableEq, Repr

/-- What the pipeline of the host is told. -/
structure PipelineSection where
  /-- Free properties in the order of the configuration. -/
  properties : OrderedMap String String

/-- The settings of a host. -/
structure Config where
  host : HostSection
  logging : LoggingSection
  metrics : MetricsSection
  pipeline : PipelineSection

namespace Config

/-- The settings that hold if nothing else is said. -/
def standard : Config where
  host := ⟨"meridian-app", "development"⟩
  logging := ⟨true, "info", .standard, false⟩
  metrics := ⟨true⟩
  pipeline := ⟨.empty⟩

instance : Inhabited Config := ⟨standard⟩

/-- The settings for work on the host: more is logged, for people, with places. -/
def development : Config :=
  { standard with logging := ⟨true, "debug", .pretty, true⟩ }

/-- The settings for a host in use. -/
def production : Config :=
  { standard with host := { standard.host with environment := "production" } }

/-- Whether the settings are the standard ones. -/
def isStandard (c : Config) : Bool :=
  c.host = standard.host && c.logging = standard.logging && c.metrics = standard.metrics &&
    c.pipeline.properties.isEmpty

/-- What the settings ask of telemetry. -/
def telemetry (c : Config) : TelemetryConfig where
  logging :=
    { LogConfig.standard with
      enabled := c.logging.enabled, level := c.logging.level, format := c.logging.format,
      location := c.logging.includeLocation }
  metrics := c.metrics.enabled

/-- Two hexadecimal digits. -/
def hexPair (n : Nat) : String :=
  let digits := Nat.toDigits 16 n
  String.ofList (List.replicate (2 - digits.length) '0' ++ digits)

/-- The written form of a character in a document. -/
def escape (c : Char) : String :=
  if c = '"' then "\\\""
  else if c = '\\' then "\\\\"
  else if c = '\x08' then "\\b"
  else if c = '\x0c' then "\\f"
  else if c = '\n' then "\\n"
  else if c = '\r' then "\\r"
  else if c = '\t' then "\\t"
  else if c.val < 0x20 then "\\u00" ++ hexPair c.toNat
  else c.toString

/-- The written form of a text in a document. -/
def renderText (s : String) : String := "\"" ++ String.join (s.toList.map escape) ++ "\""

/-- The written form of named members in a document. -/
def renderMembers (members : List (String × String)) : String :=
  let members := members.map fun m => renderText m.1 ++ ":" ++ m.2
  "\x7b" ++ String.intercalate "," members ++ "\x7d"

/-- The settings as a compact document. -/
def render (c : Config) : String :=
  let properties := c.pipeline.properties.entries.map fun e => (e.1, renderText e.2)
  renderMembers [
    ("host", renderMembers [
      ("app_name", renderText c.host.appName), ("environment", renderText c.host.environment)]),
    ("logging", renderMembers [
      ("enabled", toString c.logging.enabled), ("level", renderText c.logging.level),
      ("format", renderText c.logging.format.name),
      ("include_location", toString c.logging.includeLocation)]),
    ("metrics", renderMembers [("enabled", toString c.metrics.enabled)]),
    ("pipeline", renderMembers [("properties", renderMembers properties)])]

end Config

end Pipework
