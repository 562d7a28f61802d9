set_option autoImplicit false

/-!
# Request targets

The target of a request is a path with an optional query, an absolute address, a bare authority,
or an asterisk. Only the path and the query matter to a pipeline.

## Main definitions

* `Target` — the path and the query of a target.
* `Target.parse?` — reads a target, if its text is one.
-/

namespace Pipework

/-- What a pipeline sees of a request target. -/
structure Target where
  path : String
  query : Option String
  deriving DecidableEq, Repr

namespace Target

/-- A character that leaves a visible mark, or stands outside of ASCII. -/
def isVisible (c : Char) : Bool := 0x21 ≤ c.val && c.val ≠ 0x7F

/-- A character that may stand in a path: every visible one but `#`, `?`, `<`, `>` and the
backtick. -/
def isPathChar (c : Char) : Bool := isVisible c && !"#?<>`".toList.contains c

/-- A character that may stand in a query: every visible one but `#`, `<`, `>` and the double
quote. -/
def isQueryChar (c : Char) : Bool := isVisible c && !"#\"<>".toList.contains c

/-- A character that may stand in an authority, the percent sign apart. -/
def isAuthorityChar (c : Char) : Bool :=
  c.isAlphanum || "!$&'()*+,-.:;=@[]_~".toList.contains c

/-- A character that ends an authority. -/
def endsAuthority (c : Char) : Bool := c = '/' || c = '?' || c = '#'

/-- What has been seen of an authority. An at sign forgets the colons and percent signs before it,
for they belong to the user; a closing bracket forgets those of the address it closes. -/
structure AuthorityScan where
  colons : Nat := 0
  opened : Bool := false
  closed : Bool := false
  percent : Bool := false
  /-- The last character was an at sign. -/
  atSign : Bool := false

/-- Takes one character of an authority into account, unless it is out of place. -/
def AuthorityScan.step (s : AuthorityScan) (c : Char) : Option AuthorityScan :=
  let t := { s with atSign := false }
  if c = ':' then if s.colons ≥ 8 then none else some { t with colons := s.colons + 1 }
  else if c = '[' then if s.percent || s.opened then none else some { t with opened := true }
  else if c = ']' then
    if !s.opened || s.closed then none
    else some { t with closed := true, colons := 0, percent := false }
  else if c = '@' then some { t with colons := 0, percent := false, atSign := true }
  else if c = '%' then some { t with percent := true }
  else if isAuthorityChar c then some t
  else none

/-- Whether an authority may end here. -/
def AuthorityScan.isComplete (s : AuthorityScan) : Bool :=
  s.opened == s.closed && s.colons ≤ 1 && !s.atSign && !s.percent

/-- Whether the characters form an authority, possibly an empty one. -/
def isAuthority (l : List Char) : Bool :=
  match l.foldlM AuthorityScan.step {} with
  | some s => s.isComplete
  | none => false

/-- Reads a path and a query and drops a fragment. -/
def readPath? (l : List Char) : Option Target :=
  let path := l.takeWhile isPathChar
  let written := if path.isEmpty then "/" else String.ofList path
  match l.dropWhile isPathChar with
  | [] => some ⟨written, none⟩
  | '#' :: _ => some ⟨written, none⟩
  | '?' :: rest =>
    let query := String.ofList (rest.takeWhile isQueryChar)
    match rest.dropWhile isQueryChar with
    | [] => some ⟨written, some query⟩
    | '#' :: _ => some ⟨written, some query⟩
    | _ => none
  | _ => none

/-- A character of a scheme. -/
def isSchemeChar (c : Char) : Bool := c.isAlphanum || "+-.~".toList.contains c

/-- Splits off a scheme with its colon and slashes. -/
def afterScheme? (l : List Char) : Option (List Char) :=
  match l.dropWhile isSchemeChar with
  | ':' :: '/' :: '/' :: rest => some rest
  | _ => none

/-- The longest scheme. -/
def maxScheme : Nat := 64

/-- The largest number of bytes in a target. -/
def maxBytes : Nat := 65534

/-- Reads a target: a path if it starts with a slash, an asterisk, an absolute address if it has a
scheme, and otherwise a bare authority, whose path is empty. -/
def parse? (s : String) : Option Target :=
  if s.utf8ByteSize > maxBytes then none
  else
    match s.toList with
    | [] => none
    | ['*'] => some ⟨"*", none⟩
    | '/' :: rest => readPath? ('/' :: rest)
    | l =>
      match afterScheme? l with
      | some rest =>
        let authority := rest.takeWhile fun c => !endsAuthority c
        if (l.takeWhile isSchemeChar).length > maxScheme then none
        else if authority.isEmpty || !isAuthority authority then none
        else readPath? (rest.dropWhile fun c => !endsAuthority c)
      | none => if isAuthority l then some ⟨"", none⟩ else none

end Target

end Pipework
