import Pipework.App.Action
import Pipework.App.Route

set_option autoImplicit false

/-!
# Apps

An app takes an environment and hands it back. Most apps wrap another app and may call it on the
way. An app that belongs to a component finds the app it wraps in the state of that component, at
the moment of the call; all others carry it with them.

## Main definitions

* `Layer` — what an app does itself, around the app it wraps.
* `App`, `App.run` — apps and what they make of an environment.

## Implementation notes

`App.runWith` takes the behaviour of stateful apps as a parameter and is a recursion on the app.
`App.run` supplies that parameter from the component states and counts how many states may be
passed through in one call. A component that serves as two stages holds an app that leads back to
it, and a call ends then only because the apps change the request on the way.
-/

namespace Pipework

/-- The identity of the state of a component. -/
abbrev CellId := Nat

/-- What an app does itself: the actions it was given, or, without any, a mark with its trace
before and after the app that it wraps. -/
structure Layer where
  trace : String
  acts : Option (List Action)

namespace Layer

/-- The innermost answer of an app without actions that wraps nothing. -/
def answer (trace : String) (e : Environment) : Environment :=
  { e with status := 200, responseBody := Utf8.encode trace }

/-- Runs a layer around the app behind it. -/
def run (l : Layer) (next : Option (Environment → Environment)) (e : Environment) : Environment :=
  match l.acts with
  | some acts => Action.perform next acts e
  | none => ((next.getD (answer l.trace)) (e.mark ("+" ++ l.trace))).mark ("-" ++ l.trace)

end Layer

/-- An app. -/
inductive App where
  /-- Answers every request with status 404. -/
  | notFound
  /-- A layer around nothing. -/
  | leaf (l : Layer)
  /-- A layer around an app. -/
  | over (l : Layer) (inner : App)
  /-- A layer around the app that a component holds in its state. -/
  | resumed (l : Layer) (cell : CellId)
  /-- Passes requests under a path to a branch, and all others on. -/
  | mount (path : String) (branch next : App)
  /-- Passes requests that meet a test to a branch, and all others on. -/
  | choose (c : Cond) (branch next : App)
  /-- Passes every request on: an app seen through another type. -/
  | delegate (inner : App)

namespace App

/-- Runs a branch under a path: the branch sees the remaining path, and what it hands back gets
the path and the path base of the request again. -/
def runMounted (mount rest : String) (branch : Environment → Environment) (e : Environment) :
    Environment :=
  { branch { e with pathBase := e.pathBase ++ mount, path := rest } with
    pathBase := e.pathBase, path := e.path }

/-- Runs an app; `held` is the behaviour of the app that a component holds, if it holds one. -/
def runWith (held : CellId → Option (Environment → Environment)) : App → Environment → Environment
  | .notFound, e => { e with status := 404 }
  | .leaf l, e => l.run none e
  | .over l inner, e => l.run (some (runWith held inner)) e
  | .resumed l cell, e => l.run (held cell) e
  | .mount path branch next, e =>
    match Route.remainder? path e.path with
    | some rest => runMounted path rest (runWith held branch) e
    | none => runWith held next e
  | .choose c branch next, e =>
    if c.holds e then runWith held branch e else runWith held next e
  | .delegate inner, e => runWith held inner e

/-- Runs an app where `held` gives the app that each component holds. A call may pass through
`depth` component states; beyond that a component counts as holding nothing. -/
def run (held : CellId → Option App) : (depth : Nat) → App → Environment → Environment
  | 0, a => a.runWith fun _ => none
  | depth + 1, a => a.runWith fun cell => (held cell).map (run held depth)

/-- The text of an app in listings. -/
def debug (_ : App) : String := "DynApp(..)"

/-- The text in listings of the app behind another one, as that one sees it. -/
def debugNext (_ : App) : String := "Next \x7b .. \x7d"

/-- A delegating app behaves like the app it delegates to. -/
@[simp] theorem run_delegate (held : CellId → Option App) (depth : Nat) (a : App) :
    run held depth (.delegate a) = run held depth a := by
  cases depth <;> rfl

end App

end Pipework
