import Pipework.Config.Document

set_option autoImplicit false

/-!
# Why a configuration cannot be loaded

## Main definitions

* `DocumentFormat` — the formats of configuration texts.
* `ConfigError` — the causes, with the text of each in `ConfigError.message`.
-/

namespace Pipework

/-- The formats of configuration texts. -/
inductive DocumentFormat where
  | toml | json
  deriving DecidableEq, Repr

namespace DocumentFormat

/-- The format with a name in the lower case. -/
def ofName? (s : String) : Option DocumentFormat :=
  if s = "toml" then some .toml else if s = "json" then some .json else none

/-- The name of a format in sentences. -/
def title : DocumentFormat → String
  | .toml => "TOML"
  | .json => "JSON"

end DocumentFormat

/-- The causes for which a configuration is not loaded. -/
inductive ConfigError where
  | fileNotFound (path : String)
  | unreadable (path : String)
  | document (format : DocumentFormat) (cause : Mismatch)
  | invalidValue (field reason : String)
  | badVariable (name reason : String)
  | unsupportedFormat (name : String)
  deriving DecidableEq

/-- The text of a cause. A fault of a document has one if it has words that fit on one line. -/
def ConfigError.message : ConfigError → Option String
  | .fileNotFound path => some s!"configuration file not found: {path}"
  | .unreadable path => some s!"failed to read configuration file: {path}"
  | .document format cause => do
    let words ← cause.message
    if words.toList.contains '\n' then none
    else some s!"failed to parse {format.title} configuration: {words}"
  | .invalidValue field reason => some s!"invalid configuration value for {field}: {reason}"
  | .badVariable name reason =>
    some s!"failed to parse environment variable {name}: {reason}"
  | .unsupportedFormat name => some s!"unsupported configuration format: {name}"

end Pipework
