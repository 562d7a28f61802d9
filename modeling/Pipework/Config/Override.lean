import Pipework.Config.Basic
import Pipework.Config.Error
import Pipework.Text.CaseMap

set_option autoImplicit false

/-!
# Settings from environment variables

A variable whose name is a prefix, two underscores, and the names of a section and of a setting
replaces that setting. Variables are taken in the order of their names.

## Main definitions

* `Override.path?` — the names in the name of a variable.
* `Override.apply` — what one variable does to the settings.
* `Override.applyAll` — what all variables with a prefix do.
-/

namespace Pipework

/-- Environment variables. -/
abbrev Variables := OrderedMap String String

namespace Override

/-- Cuts a list of characters at every pair of underscores, from left to right. -/
def splitPairs : List Char → List (List Char)
  | [] => [[]]
  | '_' :: '_' :: rest => [] :: splitPairs rest
  | c :: rest =>
    match splitPairs rest with
    | [] => [[c]]
    | w :: ws => (c :: w) :: ws

/-- Leaves out a beginning. -/
def stripStart? : List Char → List Char → Option (List Char)
  | [], cs => some cs
  | p :: ps, c :: cs => if p = c then stripStart? ps cs else none
  | _ :: _, [] => none

/-- The names in the name of a variable with a prefix. -/
def path? (start name : String) : Option (List String) := do
  let rest ← stripStart? start.toList name.toList
  let rest ← stripStart? ['_', '_'] rest
  return (splitPairs rest).map String.ofList

/-- The truth value for a word in any case. -/
def flag? (s : String) : Option Bool :=
  let word := Text.lower s
  if ["true", "1", "yes", "on"].contains word then some true
  else if ["false", "0", "no", "off"].contains word then some false
  else none

/-- The truth value in a variable. -/
def flag (name value : String) : Except ConfigError Bool :=
  match flag? value with
  | some b => .ok b
  | none => .error (.badVariable name "expected boolean")

/-- The log format in a variable. -/
def logFormat (name value : String) : Except ConfigError LogFormat :=
  (LogFormat.parse value).mapError fun _ => .badVariable name "expected 'json' or 'pretty'"

/-- Replaces the setting at a path. A path that leads nowhere is passed over. -/
def set (c : Config) (name : String) (path : List String) (value : String) :
    Except ConfigError Config :=
  match path with
  | ["HOST", "APP_NAME"] => .ok { c with host := { c.host with appName := value } }
  | ["HOST", "ENVIRONMENT"] => .ok { c with host := { c.host with environment := value } }
  | ["LOGGING", "ENABLED"] => do
    let b ← flag name value
    return { c with logging := { c.logging with enabled := b } }
  | ["LOGGING", "LEVEL"] => .ok { c with logging := { c.logging with level := value } }
  | ["LOGGING", "FORMAT"] => do
    let f ← logFormat name value
    return { c with logging := { c.logging with format := f } }
  | ["LOGGING", "INCLUDE_LOCATION"] => do
    let b ← flag name value
    return { c with logging := { c.logging with includeLocation := b } }
  | ["METRICS", "ENABLED"] => do
    let b ← flag name value
    return { c with metrics := ⟨b⟩ }
  | ["PIPELINE", "PROPERTIES", property] =>
    .ok { c with pipeline := ⟨c.pipeline.properties.insert (Text.lower property) value⟩ }
  | _ => .ok c

/-- What one variable does to the settings. -/
def apply (start : String) (c : Config) (v : String × String) : Except ConfigError Config :=
  match path? start v.1 with
  | some path => set c v.1 path v.2
  | none => .ok c

/-- The variables whose names begin with a prefix, in the order of their names. -/
def selected (start : String) (vars : Variables) : List (String × String) :=
  (vars.entries.filter fun v => (stripStart? start.toList v.1.toList).isSome).mergeSort
    fun v w => decide (v.1 ≤ w.1)

/-- What all variables with a prefix do to the settings. -/
def applyAll (start : String) (vars : Variables) (c : Config) : Except ConfigError Config :=
  (selected start vars).foldlM (apply start) c

end Override

end Pipework
