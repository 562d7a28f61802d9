import Pipework.OrderedMap
import Pipework.Text.Ascii
import Pipework.Text.Utf8

set_option autoImplicit false

/-!
# Methods and header fields

The names that stand in a request are tokens. Header names ignore case and are kept in lower case;
a name may have several values, which keep their order. A value is any sequence of bytes without
control characters other than the tab.

## Main definitions

* `Method`, `HeaderName`, `HeaderValue` — the checked texts, read by their `ofString?`.
* `Headers` — the fields of a message, with `append`, `replace` and `remove`.

## Main results

* `Headers.values_append` — what adding a value does to the values of every name.

## Implementation notes

The values of a name are kept last one first, so that adding one to many is one step.
`Headers.values` and `Headers.sorted` show them in order.
-/

namespace Pipework

/-- The characters of a token. -/
def isTokenChar (c : Char) : Bool :=
  c.isAlphanum || "!#$%&'*+-.^_`|~".toList.contains c

/-- A non-empty sequence of token characters. -/
def isToken (s : String) : Bool := !s.isEmpty && s.toList.all isTokenChar

/-- A request method; methods that differ in case are different. -/
structure Method where
  text : String
  deriving DecidableEq, Repr

/-- Any token is a method. -/
def Method.ofString? (s : String) : Option Method := if isToken s then some ⟨s⟩ else none

/-- The method of a plain request. -/
def Method.get : Method := ⟨"GET"⟩

/-- A header name in lower case. -/
structure HeaderName where
  text : String
  deriving DecidableEq, Repr

/-- The largest number of bytes in a header name. -/
def HeaderName.maxBytes : Nat := 65535

/-- Any token that is not too long is a header name, and its case is dropped. -/
def HeaderName.ofString? (s : String) : Option HeaderName :=
  if isToken s && s.utf8ByteSize ≤ maxBytes then some ⟨Ascii.lower s⟩ else none

/-- The bytes of a header value. -/
structure HeaderValue where
  bytes : Bytes
  deriving DecidableEq, Repr

/-- A byte that may stand in a header value. -/
def HeaderValue.isByte (b : UInt8) : Bool := (32 ≤ b && b ≠ 127) || b = 9

/-- Any bytes without control characters other than the tab are a header value. -/
def HeaderValue.ofBytes? (l : Bytes) : Option HeaderValue :=
  if l.all isByte then some ⟨l⟩ else none

/-- The header value with the bytes of a text. -/
def HeaderValue.ofString? (s : String) : Option HeaderValue := ofBytes? (Utf8.encode s)

/-- The header fields of a message: for each name its values, the last one first. -/
abbrev Headers := OrderedMap HeaderName (List HeaderValue)

namespace Headers

/-- All values of a name in order. -/
def values (h : Headers) (n : HeaderName) : List HeaderValue := ((h.get? n).getD []).reverse

/-- Adds a value behind those that the name has. -/
def append (h : Headers) (n : HeaderName) (v : HeaderValue) : Headers :=
  OrderedMap.insert h n (v :: (h.get? n).getD [])

/-- Replaces all values of a name by one. -/
def replace (h : Headers) (n : HeaderName) (v : HeaderValue) : Headers :=
  OrderedMap.insert h n [v]

/-- Drops all values of a name. -/
def remove (h : Headers) (n : HeaderName) : Headers := OrderedMap.erase h n

/-- The fields in the order of their names, with their values in order. -/
def sorted (h : Headers) : List (HeaderName × List HeaderValue) :=
  (h.entries.map fun f => (f.1, f.2.reverse)).mergeSort fun a b => decide (a.1.text ≤ b.1.text)

/-- An added value is the last one of its name, and other names keep theirs. -/
theorem values_append (h : Headers) (n x : HeaderName) (v : HeaderValue) :
    (h.append n v).values x = if x = n then h.values n ++ [v] else h.values x := by
  by_cases hx : x = n <;> simp [values, append, OrderedMap.get?_insert, hx]

end Headers

end Pipework
