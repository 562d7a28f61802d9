import Pipework.Config.Directory
import Pipework.Config.EnvFile
import Pipework.Config.Json.Reader
import Pipework.Config.Schema
import Pipework.Config.Toml.Reader
import Pipework.Config.Validation

set_option autoImplicit false

/-!
# Loading a configuration

A configuration is put together in layers: presets, files and texts, each of which replaces all
settings, and in the end the environment variables, which replace single ones.

## Main definitions

* `Config.parse` — the settings in a text.
* `Source`, `Loader.add` — what a layer is made from, and what it does.
* `Loader.finish` — the environment variables and the check at the end.
* `Loader.load` — all layers and the end, with the place of the first failure.
-/

namespace Pipework

/-- The settings in a text of a format. -/
def Config.parse (format : DocumentFormat) (text : String) : Except ConfigError Config :=
  let made : Except Mismatch Config :=
    match format with
    | .toml =>
      match Toml.read? text with
      | some n => Config.ofNode .toml n
      | none => .error .malformed
    | .json => do
      let (n, whole) := Json.read text
      let c ← Config.ofNode .json n
      if whole then return c else throw .malformed
  made.mapError fun cause => .document format cause

/-- The settings in a text of a format with a name in the lower case. -/
def Config.parseNamed (name text : String) : Except ConfigError Config :=
  match DocumentFormat.ofName? name with
  | some format => Config.parse format text
  | none => .error (.unsupportedFormat name)

/-- A layer of a configuration. -/
inductive Source where
  | development
  | production
  /-- The file `.env`, if there is one, adds to the environment variables. -/
  | envFile
  | file (path : String)
  /-- A file that may be missing. -/
  | optionalFile (path : String)
  | text (content format : String)
  /-- Environment variables whose names begin with this, in the upper case, are used. -/
  | overrides (start : String)

/-- Where a configuration is loaded. -/
structure Loader where
  directory : Directory
  vars : Variables
  /-- How the names of the variables begin that are used. -/
  start : Option String
  config : Config

namespace Loader

/-- The beginning: the standard settings. -/
def new (directory : Directory) (vars : Variables) : Loader :=
  ⟨directory, vars, none, Config.standard⟩

/-- Replaces all settings by those of a file. The format is the extension of its name in the lower
case. -/
def readFile (l : Loader) (path : String) : Except ConfigError Loader :=
  match l.directory.find? path with
  | none => .error (.fileNotFound path)
  | some .directory => .error (.unreadable path)
  | some (.file content) =>
    match Utf8.strict? content with
    | none => .error (.unreadable path)
    | some text => do
      let c ← Config.parseNamed (Text.lower ((extension? path).getD "")) text
      return { l with config := c }

/-- What a layer does. -/
def add (l : Loader) : Source → Except ConfigError Loader
  | .development => .ok { l with config := Config.development }
  | .production => .ok { l with config := Config.production }
  | .envFile =>
    match l.directory.find? ".env" with
    | some (.file content) => .ok { l with vars := EnvFile.load l.vars content }
    | _ => .ok l
  | .file path => l.readFile path
  | .optionalFile path =>
    match l.directory.find? path with
    | none => .ok l
    | some _ => l.readFile path
  | .text content format => do
    let c ← Config.parseNamed (Text.lower format) content
    return { l with config := c }
  | .overrides start => .ok { l with start := some (Text.upper start) }

/-- Puts the environment variables in. -/
def overridden (l : Loader) : Except ConfigError Config :=
  match l.start with
  | some start => Override.applyAll start l.vars l.config
  | none => .ok l.config

/-- Puts the environment variables in and checks the settings. -/
def finish (l : Loader) : Except ConfigError Config := do
  let c ← l.overridden
  c.validate
  return c

/-- A failure: its cause, and how many layers had been added before. -/
structure Failure where
  place : Nat
  cause : ConfigError

/-- Adds layers; `place` is how many were added before. -/
def addAll (place : Nat) (l : Loader) : List Source → Except Failure Loader
  | [] => .ok l
  | s :: ss =>
    match l.add s with
    | .ok l => addAll (place + 1) l ss
    | .error e => .error ⟨place, e⟩

/-- Adds all layers and finishes. If `checked` does not hold, the settings are taken as the layers
leave them. -/
def load (l : Loader) (layers : List Source) (checked : Bool) : Except Failure Config := do
  let l ← l.addAll 0 layers
  if checked then l.finish.mapError fun e => ⟨layers.length, e⟩
  else return l.config

end Loader

end Pipework
