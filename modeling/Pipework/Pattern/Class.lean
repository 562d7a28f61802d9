import Pipework.Pattern.Nesting
import Pipework.Pattern.Symbol

set_option autoImplicit false

/-!
# Classes of characters

A class lists characters, ranges, kinds and other classes between brackets, and may take its lists
apart with `&&`, `--` and `~~`. A circumflex at its beginning means all others; in a pattern for
bytes these are never text.

## Main definitions

* `Class.member?` — reading a character or a range.
* `Class.Open`, `Class.read?` — reading a class and those inside of it.
-/

namespace Pipework.Pattern.Class

/-! ## Members -/

/-- The names of the classes that have one. -/
def names : List String :=
  ["alnum", "alpha", "ascii", "blank", "cntrl", "digit", "graph", "lower", "print", "punct",
    "space", "upper", "word", "xdigit"]

/-- Reads a named class after its bracket, and tells whether it means all others. -/
def named? : List Char → Option (Bool × List Char)
  | ':' :: rest =>
    let (negated, rest) := match rest with
      | '^' :: r => (true, r)
      | r => (false, r)
    match rest.dropWhile (· ≠ ':') with
    | ':' :: ']' :: after =>
      if names.contains (String.ofList (rest.takeWhile (· ≠ ':'))) then some (negated, after)
      else none
    | _ => none
  | _ => none

/-- Whether a named class has a meaning. -/
def allowsNamed (f : Flags) (negated : Bool) : Bool :=
  if f.unicode then !f.ignoreCase else !negated

/-- Reads one symbol of a class. -/
def symbol? (f : Flags) : List Char → Option (Symbol × List Char)
  | [] => none
  | '\\' :: rest => Symbol.escape? f rest
  | c :: rest => some (.char c false, rest)

/-- Whether two symbols are the ends of a range. -/
def isRange (f : Flags) (first last : Symbol) : Bool :=
  match first, last with
  | .char c _, .char d _ => c ≤ d && f.allowsMember first && f.allowsMember last
  | _, _ => false

/-- Reads a symbol or a range. A dash makes no range before another one or before the end. -/
def member? (f : Flags) (cs : List Char) : Option (List Char) := do
  let (first, rest) ← symbol? f cs
  match f.skip rest with
  | '-' :: after =>
    if f.peek after = some ']' || f.peek after = some '-' then
      if f.allowsMember first then some ('-' :: after) else none
    else do
      let (last, rest) ← symbol? f (f.skip after)
      if isRange f first last then some rest else none
  | rest => if f.allowsMember first then some rest else none

/-! ## Classes -/

/-- What has been read of a class that is open. -/
structure Open where
  /-- Only dashes have been read. -/
  fresh : Bool
  /-- The depth of what the pending operation takes apart, if there is one. -/
  left : Option Nat
  /-- The members since. -/
  row : Row

namespace Open

/-- A class of which nothing has been read. -/
def start : Open := ⟨true, none, .empty⟩

/-- Adds a member of a depth. -/
def push (o : Open) (depth : Nat) : Open := { o with fresh := false, row := o.row.push depth }

/-- Adds a dash at the beginning. -/
def pushDash (o : Open) : Open := { o with row := o.row.push 0 }

/-- The depth of what has been read. -/
def depth (o : Open) : Nat :=
  match o.left with
  | some d => max d o.row.depth + 1
  | none => o.row.depth

/-- Begins an operation on what has been read. -/
def operate (o : Open) : Open := ⟨false, some o.depth, .empty⟩

end Open

/-- Reads what stands at the opening bracket of a class. -/
def opening? (f : Flags) (cs : List Char) : Option (List Char) :=
  match f.skip cs with
  | '^' :: rest => if f.unicode then some rest else none
  | rest => some rest

/-- Reads a class to its end and gives its depth; `outer` holds the classes around it. -/
def scan (f : Flags) : (fuel : Nat) → (outer : List Open) → Open → List Char →
    Option (Nat × List Char)
  | 0, _, _, _ => none
  | fuel + 1, outer, o, cs =>
    match f.skip cs with
    | [] => none
    | '[' :: rest =>
      match named? rest with
      | some (negated, rest) =>
        if allowsNamed f negated then scan f fuel outer (o.push 0) rest else none
      | none => (opening? f rest).bind fun rest => scan f fuel (o :: outer) .start rest
    | ']' :: rest =>
      if o.fresh && o.row.count = 0 then
        if f.allowsMember (.char ']' false) then scan f fuel outer (o.push 0) rest else none
      else
        match outer with
        | [] => some (o.depth + 1, rest)
        | p :: outer => scan f fuel outer (p.push (o.depth + 1)) rest
    | '&' :: '&' :: rest => scan f fuel outer o.operate rest
    | '~' :: '~' :: rest => scan f fuel outer o.operate rest
    | '-' :: rest =>
      if o.fresh then
        if f.allowsMember (.char '-' false) then scan f fuel outer o.pushDash rest else none
      else
        match rest with
        | '-' :: rest => scan f fuel outer o.operate rest
        | _ => (member? f ('-' :: rest)).bind fun rest => scan f fuel outer (o.push 0) rest
    | c :: rest => (member? f (c :: rest)).bind fun rest => scan f fuel outer (o.push 0) rest

/-- Reads a class after its bracket and gives its depth. -/
def read? (f : Flags) (cs : List Char) : Option (Nat × List Char) :=
  (opening? f cs).bind fun rest => scan f (rest.length + 1) [] .start rest

end Pipework.Pattern.Class
