import Pipework.Config.Basic
import Pipework.Config.Error

set_option autoImplicit false

/-!
# Reading settings from documents

A document is compared with the settings in the order of its text, and the first fault is reported.
A section is a table of its fields, or a sequence of them in order; what is missing keeps its
standard value.

## Main definitions

* `Schema.Field` — a field of a section: its name and how it is read into the section.
* `Schema.section?` — reads a section.
* `Config.ofNode` — reads all settings.

## Implementation notes

The two formats differ in three places: whether a sequence may be longer than the section, what can
stand for the log format, and whether a date can stand for a table.
-/

namespace Pipework.Schema

/-- Reads a text. -/
def text : Node → Except Mismatch String
  | .str s => .ok s
  | .broken => .error .malformed
  | n => .error (.wrongType n.describe "a string")

/-- Reads a truth value. -/
def flag : Node → Except Mismatch Bool
  | .bool b => .ok b
  | .broken => .error .malformed
  | n => .error (.wrongType n.describe "a boolean")

/-- The log format with a name. -/
def logFormatNamed (s : String) : Except Mismatch LogFormat :=
  match LogFormat.ofName? s with
  | some f => .ok f
  | none => .error (.unknownVariant s LogFormat.names)

/-- Reads a log format where it can be a name or a table of one name and a null. -/
def logFormatOrNull : Node → Except Mismatch LogFormat
  | .str s => logFormatNamed s
  | .table ((s, content) :: rest) complete => do
    let f ← logFormatNamed s
    match content with
    | .null => if complete && rest.isEmpty then .ok f else .error .malformed
    | .broken => .error .malformed
    | n => .error (.wrongType n.describe "unit")
  | _ => .error .malformed

/-- Reads a log format where it can be a name or a table of one name and an empty container. -/
def logFormatOrEmpty : Node → Except Mismatch LogFormat
  | .str s => logFormatNamed s
  | .table [(s, content)] _ => do
    let f ← logFormatNamed s
    match content with
    | .seq [] _ => .ok f
    | .table [] _ => .ok f
    | _ => .error .malformed
  | _ => .error .malformed

/-- Reads a log format. -/
def logFormat : DocumentFormat → Node → Except Mismatch LogFormat
  | .json => logFormatOrNull
  | .toml => logFormatOrEmpty

/-- The only key of a date that is taken for a table. -/
def momentKey : String := "$__toml_private_datetime"

/-- The end of a container: nothing if it was reached, otherwise a fault. -/
def ended {σ : Type} (complete : Bool) (s : σ) : Except Mismatch σ :=
  if complete then .ok s else .error .malformed

/-- Stores the members of a table one after the other; a name that comes again keeps its place and
takes the last value. -/
def storeTexts (m : OrderedMap String String) (complete : Bool) :
    List (String × Node) → Except Mismatch (OrderedMap String String)
  | [] => ended complete m
  | (k, v) :: rest => do
    let s ← text v
    storeTexts (m.insert k s) complete rest

/-- Reads a table of texts. -/
def texts : Node → Except Mismatch (OrderedMap String String)
  | .table members complete => storeTexts .empty complete members
  | .moment s => .ok (OrderedMap.ofList [(momentKey, s)])
  | .broken => .error .malformed
  | n => .error (.wrongType n.describe "a map")

/-- A field of a section: its name and how its value is read into the section. -/
structure Field (σ : Type) where
  name : String
  read : Node → σ → Except Mismatch σ

/-- A field that is stored by `store` after it is read by `read`. -/
def Field.of {σ α : Type} (name : String) (read : Node → Except Mismatch α)
    (store : σ → α → σ) : Field σ :=
  ⟨name, fun n s => (store s) <$> read n⟩

section

variable {σ : Type} (fields : List (Field σ))

/-- Reads members by their names; `seen` holds the names that came before. -/
def readMembers (complete : Bool) (seen : List String) (s : σ) :
    List (String × Node) → Except Mismatch σ
  | [] => ended complete s
  | (k, v) :: rest =>
    match fields.find? fun f => f.name = k with
    | none => .error (.unknownField k (fields.map Field.name))
    | some f =>
      if seen.contains k then .error (.duplicateField k)
      else do
        let s ← f.read v s
        readMembers complete (k :: seen) s rest

/-- Reads elements by their places. -/
def readItems (format : DocumentFormat) (complete : Bool) (s : σ) :
    List (Field σ) → List Node → Except Mismatch σ
  | f :: fs, v :: rest => do
    let s ← f.read v s
    readItems format complete s fs rest
  | _, [] => ended complete s
  | [], _ :: _ => if format = .toml then .ok s else .error .malformed

/-- Reads a section that starts as `s`. -/
def readSection (format : DocumentFormat) (title : String) (s : σ) : Node → Except Mismatch σ
  | .table members complete => readMembers fields complete [] s members
  | .seq items complete => readItems format complete s fields items
  | .moment _ => .error (.unknownField momentKey (fields.map Field.name))
  | .broken => .error .malformed
  | n => .error (.wrongType n.describe ("struct " ++ title))

end

/-- The fields of the host section. -/
def hostFields : List (Field HostSection) :=
  [.of "app_name" text fun s a => { s with appName := a },
    .of "environment" text fun s a => { s with environment := a }]

/-- The fields of the logging section. -/
def loggingFields (format : DocumentFormat) : List (Field LoggingSection) :=
  [.of "enabled" flag fun s a => { s with enabled := a },
    .of "level" text fun s a => { s with level := a },
    .of "format" (logFormat format) fun s a => { s with format := a },
    .of "include_location" flag fun s a => { s with includeLocation := a }]

/-- The fields of the metrics section. -/
def metricsFields : List (Field MetricsSection) :=
  [.of "enabled" flag fun s a => { s with enabled := a }]

/-- The fields of the pipeline section. -/
def pipelineFields : List (Field PipelineSection) :=
  [.of "properties" texts fun s a => { s with properties := a }]

/-- The sections. -/
def sections (format : DocumentFormat) : List (Field Config) :=
  [.of "host" (readSection hostFields format "HostConfig" Config.standard.host)
      fun c a => { c with host := a },
    .of "logging"
      (readSection (loggingFields format) format "LoggingConfig" Config.standard.logging)
      fun c a => { c with logging := a },
    .of "metrics" (readSection metricsFields format "MetricsConfig" Config.standard.metrics)
      fun c a => { c with metrics := a },
    .of "pipeline" (readSection pipelineFields format "PipelineConfig" Config.standard.pipeline)
      fun c a => { c with pipeline := a }]

end Schema

/-- Reads all settings; those that are missing are the standard ones. -/
def Config.ofNode (format : DocumentFormat) (n : Node) : Except Mismatch Config :=
  Schema.readSection (Schema.sections format) format "MeridianConfig" Config.standard n

end Pipework
