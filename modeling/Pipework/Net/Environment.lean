import Pipework.Net.Headers
import Pipework.Net.Target
import Pipework.Text.Quoted

set_option autoImplicit false

/-!
# Environments

An environment is one request on its way through a pipeline, together with the response that is
being made for it. Apps receive it whole and hand it back whole.

## Main definitions

* `Environment` — the request, the response so far, and the values attached on the way.
* `Request`, `Environment.ofRequest` — a request as it arrives and the environment it starts.
* `Response`, `Environment.response` — what is sent in the end.
-/

namespace Pipework

/-- The kinds of values that can be attached to an environment. -/
inductive ExtensionKind where
  | number | text | flag
  deriving DecidableEq, Repr

/-- A value attached to an environment. -/
inductive Extension where
  | number (n : UInt32)
  | text (s : String)
  | flag (b : Bool)
  deriving DecidableEq, Repr

/-- The kind of an attached value. -/
def Extension.kind : Extension → ExtensionKind
  | .number _ => .number
  | .text _ => .text
  | .flag _ => .flag

/-- The text of an attached value. -/
def Extension.render : Extension → String
  | .number n => toString n
  | .text s => s
  | .flag b => toString b

/-- One request and the response made for it so far. -/
structure Environment where
  method : Method
  /-- The part of the path that has been matched away by the mounts passed so far. -/
  pathBase : String
  /-- The part of the path that is still to be matched. -/
  path : String
  query : Option String
  requestHeaders : Headers
  requestBody : Bytes
  status : Nat
  responseHeaders : Headers
  responseBody : Bytes
  /-- At most one value of each kind. -/
  extensions : OrderedMap ExtensionKind Extension

/-- A request as it arrives. -/
structure Request where
  method : Method
  target : Target
  headers : Headers
  body : Bytes

/-- What is sent in the end. -/
structure Response where
  status : Nat
  headers : Headers
  body : Bytes

namespace Environment

/-- The environment of a plain request for the root. -/
def blank : Environment where
  method := .get
  pathBase := ""
  path := "/"
  query := none
  requestHeaders := .empty
  requestBody := []
  status := 200
  responseHeaders := .empty
  responseBody := []
  extensions := .empty

instance : Inhabited Environment := ⟨blank⟩

/-- The environment that a request starts. -/
def ofRequest (r : Request) : Environment :=
  { blank with
    method := r.method, path := r.target.path, query := r.target.query,
    requestHeaders := r.headers, requestBody := r.body }

/-- The response that an environment ends with. -/
def response (e : Environment) : Response := ⟨e.status, e.responseHeaders, e.responseBody⟩

/-- Whether a number is a response status. -/
def isStatus (n : Nat) : Bool := 100 ≤ n && n ≤ 999

/-- The name of the response header in which apps leave their marks. -/
def traceHeader : HeaderName := ⟨"x-trace"⟩

/-- Leaves a mark; a mark that cannot stand in a header value becomes the word `invalid`. -/
def mark (e : Environment) (s : String) : Environment :=
  let v := (HeaderValue.ofString? s).getD ⟨Utf8.encode "invalid"⟩
  { e with responseHeaders := e.responseHeaders.append traceHeader v }

/-- The text of an environment in listings; `id` stands for the text of its request id. -/
def debug (e : Environment) (id : String) : String :=
  s!"Environment \x7b request_id: RequestId({id}), method: {e.method.text}, path_base: " ++
    s!"{Text.quoted e.pathBase}, path: {Text.quoted e.path}, status: {e.status}, extensions: " ++
    s!"{e.extensions.size}, .. \x7d"

end Environment

end Pipework
