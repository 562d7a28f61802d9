import Pipework.Telemetry.Error
import Pipework.Text.Ascii

set_option autoImplicit false

/-!
# Formats of the log

## Main definitions

* `LogFormat` — the two formats; `LogFormat.name` is the word for each.
* `LogFormat.ofName?`, `LogFormat.parse` — the format for a word, as it stands or in any case.
-/

namespace Pipework

/-- How log events are written. -/
inductive LogFormat where
  /-- One object a line. -/
  | json
  /-- Several lines an event, for people. -/
  | pretty
  deriving DecidableEq, Repr

namespace LogFormat

/-- The format that is used if none is named. -/
def standard : LogFormat := .json

/-- The word for a format. -/
def name : LogFormat → String
  | .json => "json"
  | .pretty => "pretty"

/-- The words for the formats. -/
def names : List String := [name .json, name .pretty]

/-- The format with exactly this word. -/
def ofName? (s : String) : Option LogFormat :=
  if s = name .json then some .json else if s = name .pretty then some .pretty else none

/-- The format with this word in any case. -/
def parse (s : String) : Except TelemetryError LogFormat :=
  let word := Ascii.lower s
  match ofName? word with
  | some f => .ok f
  | none => .error (.invalidConfig s!"unknown log format `{word}`")

end LogFormat

end Pipework
