import Pipework.Builder
import Pipework.Config.Basic

set_option autoImplicit false

/-!
# Builders for a host

## Main definitions

* `Host.properties` — the properties that a configuration asks for.
* `Host.bootstrap` — a new builder with these properties.
-/

namespace Pipework.Host

/-- The property that holds the name of the app. -/
def appNameKey : String := "host.AppName"

/-- The property that holds the place where the app runs. -/
def environmentKey : String := "host.Environment"

/-- The property that holds a property of the pipeline. -/
def propertyKey (name : String) : String := "host.Properties." ++ name

/-- The properties that a configuration asks for, in the order in which they are stored. -/
def properties (c : Config) : List (String × String) :=
  (appNameKey, c.host.appName) :: (environmentKey, c.host.environment) ::
    c.pipeline.properties.entries.map fun e => (propertyKey e.1, e.2)

/-- Stores properties that hold texts. -/
def storeAll (p : BagId) : List (String × String) → Engine Unit
  | [] => pure ()
  | (key, text) :: rest => do
    let _ ← Engine.setProperty p key (.data (.datum (.string text)))
    storeAll p rest

/-- Makes a builder for a host with a configuration. -/
def bootstrap (c : Config) : Engine Builder := do
  let b ← Builder.make
  storeAll b.properties (properties c)
  Engine.report
    (.bootstrapped c.host.appName c.host.environment c.pipeline.properties.size)
  pure b

end Pipework.Host
