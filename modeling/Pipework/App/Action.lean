import Pipework.Net.Environment

set_option autoImplicit false

/-!
# Actions

The steps that an app takes on an environment: tests on the request, changes to the request and
the response, and the call of the app behind it.

## Main definitions

* `Cond`, `Cond.holds` — tests on an environment.
* `Action`, `Action.runAll` — steps, run in order around the app behind.
-/

namespace Pipework

/-- A test on an environment. -/
inductive Cond where
  | const (b : Bool)
  | method (s : String)
  | path (s : String)
  | pathStartsWith (s : String)
  | pathBase (s : String)
  | query (s : String)
  /-- The request has a header of this name. -/
  | header (name : String)
  | status (n : Nat)
  | not (c : Cond)
  | all (cs : List Cond)
  | any (cs : List Cond)

namespace Cond

mutual

/-- Whether a test holds of an environment. -/
def holds (e : Environment) : Cond → Bool
  | .const b => b
  | .method s => e.method.text = s
  | .path s => e.path = s
  | .pathStartsWith s => s.toList.isPrefixOf e.path.toList
  | .pathBase s => e.pathBase = s
  | .query s => e.query = some s
  | .header name =>
    match HeaderName.ofString? name with
    | some n => e.requestHeaders.contains n
    | none => false
  | .status n => e.status = n
  | .not c => !holds e c
  | .all cs => holdsAll e cs
  | .any cs => holdsAny e cs

/-- Whether every test of a list holds. -/
def holdsAll (e : Environment) : List Cond → Bool
  | [] => true
  | c :: cs => holds e c && holdsAll e cs

/-- Whether some test of a list holds. -/
def holdsAny (e : Environment) : List Cond → Bool
  | [] => false
  | c :: cs => holds e c || holdsAny e cs

end

end Cond

/-- A change to the environment. -/
inductive Edit where
  | status (n : Nat)
  | body (b : Bytes)
  | appendBody (s : String)
  | upperBody
  /-- The response body becomes a summary of the request. -/
  | echo
  | echoBody
  | trace (s : String)
  | appendHeader (name value : String)
  | replaceHeader (name value : String)
  | removeHeader (name : String)
  | appendRequestHeader (name value : String)
  | replaceRequestHeader (name value : String)
  | path (s : String)
  | pathBase (s : String)
  | method (s : String)
  | attach (x : Extension)
  /-- Leaves a mark that tells the attached value of a kind. -/
  | report (k : ExtensionKind)
  /-- Takes the attached value of a kind away and leaves a mark that tells it. -/
  | detach (k : ExtensionKind)
  deriving DecidableEq

namespace Edit

/-- Changes header fields if both texts can stand in a header, and does nothing otherwise. -/
def withHeader (name value : String) (f : HeaderName → HeaderValue → Headers → Headers)
    (h : Headers) : Headers :=
  match HeaderName.ofString? name, HeaderValue.ofString? value with
  | some n, some v => f n v h
  | _, _ => h

/-- The method, the path and the query of a request in one line. -/
def summary (e : Environment) : String :=
  e.method.text ++ " " ++ e.pathBase ++ "|" ++ e.path ++ "|" ++ e.query.getD "-"

/-- The attached value of a kind in a mark. -/
def tell (e : Environment) (k : ExtensionKind) : String :=
  ((e.extensions.get? k).map Extension.render).getD "none"

/-- Makes a change. A status, method or header that does not exist is not set. -/
def apply (e : Environment) : Edit → Environment
  | .status n => if Environment.isStatus n then { e with status := n } else e
  | .body b => { e with responseBody := b }
  | .appendBody s => { e with responseBody := Utf8.encode (Utf8.lossy e.responseBody ++ s) }
  | .upperBody =>
    { e with responseBody := Utf8.encode (Ascii.upper (Utf8.lossy e.responseBody)) }
  | .echo => { e with responseBody := Utf8.encode (summary e) }
  | .echoBody => { e with responseBody := e.requestBody }
  | .trace s => e.mark s
  | .appendHeader name value =>
    { e with responseHeaders :=
        withHeader name value (fun n v h => h.append n v) e.responseHeaders }
  | .replaceHeader name value =>
    { e with responseHeaders :=
        withHeader name value (fun n v h => h.replace n v) e.responseHeaders }
  | .removeHeader name =>
    match HeaderName.ofString? name with
    | some n => { e with responseHeaders := e.responseHeaders.remove n }
    | none => e
  | .appendRequestHeader name value =>
    { e with requestHeaders :=
        withHeader name value (fun n v h => h.append n v) e.requestHeaders }
  | .replaceRequestHeader name value =>
    { e with requestHeaders :=
        withHeader name value (fun n v h => h.replace n v) e.requestHeaders }
  | .path s => { e with path := s }
  | .pathBase s => { e with pathBase := s }
  | .method s =>
    match Method.ofString? s with
    | some m => { e with method := m }
    | none => e
  | .attach x => { e with extensions := e.extensions.insert x.kind x }
  | .report k => e.mark ("get:" ++ tell e k)
  | .detach k => { (e.mark ("removed:" ++ tell e k)) with extensions := e.extensions.erase k }

end Edit

/-- A step of an app. -/
inductive Action where
  | edit (x : Edit)
  /-- Calls the app behind. -/
  | next
  | branch (c : Cond) (yes no : List Action)

namespace Action

/-- How far a run of actions has come. -/
structure Progress where
  env : Environment
  /-- The app behind has been called. -/
  spent : Bool

/-- Calls the app behind, unless there is none or it has been called already. -/
def callNext (next : Option (Environment → Environment)) (p : Progress) : Progress :=
  match next, p.spent with
  | some f, false => ⟨f p.env, true⟩
  | _, _ => p

mutual

/-- Takes one step. -/
def run (next : Option (Environment → Environment)) (p : Progress) : Action → Progress
  | .edit x => { p with env := x.apply p.env }
  | .next => callNext next p
  | .branch c yes no => if c.holds p.env then runAll next p yes else runAll next p no

/-- Takes the steps of a list in order. -/
def runAll (next : Option (Environment → Environment)) (p : Progress) : List Action → Progress
  | [] => p
  | a :: as => runAll next (run next p a) as

end

/-- What a list of actions makes of an environment. -/
def perform (next : Option (Environment → Environment)) (as : List Action) (e : Environment) :
    Environment :=
  (runAll next ⟨e, false⟩ as).env

/-- The environment before the first of some actions and after each of them, where every action is
run on its own with no app behind. -/
def trail : List Action → Environment → List Environment
  | [], e => [e]
  | a :: as, e => e :: trail as (perform none [a] e)

end Action

end Pipework
