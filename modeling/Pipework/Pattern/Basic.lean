import Pipework.Pattern.Class
import Pipework.Pattern.Group

set_option autoImplicit false

/-!
# Patterns

The form of the patterns that a log filter compares the values of fields with: symbols, classes,
groups, alternatives and repetitions. A filter keeps closing braces for itself, so that a pattern
never counts repetitions.

## Main definitions

* `Level` — what has been read of a group that is open.
* `depth?` — how deep a text is nested as a pattern, if it is one.
* `isPattern` — whether a text is a pattern that is not nested too deep.
-/

namespace Pipework.Pattern

/-- What has been read of a group that is open, or of the whole pattern. -/
structure Level where
  /-- The flags that hold. -/
  flags : Flags
  /-- The alternatives that have been read. -/
  branches : Row
  /-- The parts of the alternative that is being read. -/
  row : Row
  /-- The depth of the last part, if it can be repeated. -/
  last : Option Nat

namespace Level

/-- A group of which nothing has been read. -/
def start (f : Flags) : Level := ⟨f, .empty, .empty, none⟩

/-- Adds a part of a depth. -/
def push (l : Level) (depth : Nat) : Level :=
  { l with row := l.row.push depth, last := some depth }

/-- Sets flags, which are a part that cannot be repeated. -/
def setFlags (l : Level) (f : Flags) : Level :=
  { l with flags := f, row := l.row.push 0, last := none }

/-- Begins the next alternative. -/
def alternate (l : Level) : Level :=
  { l with branches := l.branches.push l.row.depth, row := .empty, last := none }

/-- Repeats the last part. -/
def repeat? (l : Level) : Option Level :=
  l.last.map fun d => { l with row := l.row.deepen (d + 1), last := some (d + 1) }

/-- The depth of what has been read. -/
def depth (l : Level) : Nat := (l.branches.push l.row.depth).depth

end Level

/-- Leaves out the mark that makes a repetition take as little as it can. -/
def dropLazy : List Char → List Char
  | '?' :: rest => rest
  | cs => cs

/-- Reads a pattern to its end and gives its depth. The list `outer` holds the groups around the
one that is being read, and `names` the names of groups, each of which can be given once. -/
def scan : (fuel : Nat) → (names : List (List Char)) → (outer : List Level) → Level →
    List Char → Option Nat
  | 0, _, _, _, _ => none
  | fuel + 1, names, outer, l, cs =>
    match l.flags.skip cs with
    | [] => if outer.isEmpty then some l.depth else none
    | '(' :: rest =>
      match Group.read? l.flags rest with
      | some (.group f none, rest) => scan fuel names (l :: outer) (.start f) rest
      | some (.group f (some name), rest) =>
        if names.contains name then none
        else scan fuel (name :: names) (l :: outer) (.start f) rest
      | some (.flags f, rest) => scan fuel names outer (l.setFlags f) rest
      | none => none
    | ')' :: rest =>
      match outer with
      | [] => none
      | m :: outer => scan fuel names outer (m.push (l.depth + 1)) rest
    | '|' :: rest => scan fuel names outer l.alternate rest
    | '[' :: rest =>
      match Class.read? l.flags rest with
      | some (depth, rest) => scan fuel names outer (l.push depth) rest
      | none => none
    | '\x7b' :: _ => none
    | c :: rest =>
      if c = '*' || c = '+' || c = '?' then
        match l.repeat? with
        | some l => scan fuel names outer l (dropLazy rest)
        | none => none
      else
        match Symbol.read? l.flags (c :: rest) with
        | some (s, rest) => if l.flags.allows s then scan fuel names outer (l.push 0) rest else none
        | none => none

/-- How deep a text is nested as a pattern. -/
def depth? (cs : List Char) : Option Nat := scan (cs.length + 1) [] [] (.start .initial) cs

/-- Whether a text is a pattern that is not nested too deep. -/
def isPattern (cs : List Char) : Bool :=
  match depth? cs with
  | some d => d ≤ nestLimit
  | none => false

end Pipework.Pattern
