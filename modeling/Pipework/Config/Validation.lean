import Pipework.Config.Basic
import Pipework.Config.Error

set_option autoImplicit false

/-!
# Settings that make sense

## Main definitions

* `Config.validate` — the first fault of the settings, if there is one.
-/

namespace Pipework.Config

/-- Whether a text can be the name of a property: it is not empty and has no blank and no point. -/
def isPropertyName (s : String) : Bool :=
  !s.isEmpty && s.toList.all fun c => !Text.isBlank c && c ≠ '.'

/-- Checks the name of the app. -/
def checkHost (c : Config) : Except ConfigError Unit :=
  if (Text.trim c.host.appName.toList).isEmpty then
    .error (.invalidValue "host.app_name" "must not be empty")
  else .ok ()

/-- Checks the filter of the log, if the log is used. -/
def checkLogging (c : Config) : Except ConfigError Unit :=
  if c.logging.enabled then
    (Setup.checkFilter c.logging.level).mapError fun e => .invalidValue "logging.level" e.message
  else .ok ()

/-- Checks the names of the properties. -/
def checkProperties (c : Config) : Except ConfigError Unit :=
  match c.pipeline.properties.keys.find? fun k => !isPropertyName k with
  | some k => .error (.invalidValue "pipeline.properties" s!"invalid property name `{k}`")
  | none => .ok ()

/-- Checks the settings section by section. -/
def validate (c : Config) : Except ConfigError Unit := do
  checkHost c
  checkLogging c
  checkProperties c

end Pipework.Config
