import Pipework.Config.Override
import Pipework.Text.Utf8

set_option autoImplicit false

/-!
# Files of environment variables

A file of lines `NAME=value`. A value can be quoted, and can go on over several lines while a quote
is open; a backslash escapes, and a dollar sign puts the value of another variable in. Reading stops
at the first line that does not follow the rules.

## Main definitions

* `EnvFile.entries` — the logical lines of a file.
* `EnvFile.line?` — reads one logical line.
* `EnvFile.load` — adds the variables of a file to those that are there.
-/

namespace Pipework.EnvFile

/-! ## Logical lines -/

/-- What is open at a place in a file. -/
inductive Mode where
  | plain
  /-- After a blank, where a comment may begin. -/
  | blank
  | escape
  | single
  | singleEscape
  | double
  | doubleEscape
  deriving DecidableEq, Repr

/-- What is open after a character outside of quotes. -/
def Mode.open (c : Char) : Mode :=
  if c = '\\' then .escape else if c = '"' then .double else if c = '\'' then .single else .plain

/-- What is open after one more character. -/
def Mode.next : Mode → Char → Mode
  | .blank, c => Mode.open c
  | .plain, c =>
    if Text.isBlank c && c ≠ '\n' && c ≠ '\r' then .blank else Mode.open c
  | .escape, _ => .plain
  | .double, c => if c = '\\' then .doubleEscape else if c = '"' then .plain else .double
  | .doubleEscape, _ => .double
  | .single, c => if c = '\\' then .singleEscape else if c = '\'' then .plain else .single
  | .singleEscape, _ => .single

/-- Reads a line: what is open at its end, or the part before its comment. -/
def scan : Mode → List Char → Mode ⊕ List Char
  | m, [] => .inl m
  | m, c :: rest =>
    if m = .blank && c = '#' then .inr []
    else
      match scan (m.next c) rest with
      | .inl m => .inl m
      | .inr kept => .inr (c :: kept)

/-- Cuts bytes after every line feed. -/
def splitLines : Bytes → List Bytes
  | [] => []
  | b :: rest =>
    if b = 0x0A then [b] :: splitLines rest
    else
      match splitLines rest with
      | [] => [[b]]
      | l :: ls => (b :: l) :: ls

/-- Leaves out the end of a line. -/
def chomp (cs : List Char) : List Char :=
  match cs.reverse with
  | '\n' :: '\r' :: rest => rest.reverse
  | '\n' :: rest => rest.reverse
  | _ => cs

/-- Whether a text is a comment. -/
def isComment (cs : List Char) : Bool := (cs.dropWhile Text.isBlank).head? = some '#'

/-- The logical lines of a file, with `none` where reading stops for a fault. `held` is the part of
a logical line that has been read, and `m` what is open after it. -/
def gather (m : Mode) (held : List Char) : List Bytes → List (Option (List Char))
  | [] => if m = .plain then [] else [none]
  | l :: ls =>
    match Utf8.strict? l with
    | none => [none]
    | some s =>
      let all := held ++ s.toList
      if isComment all then gather .plain [] ls
      else
        match scan m s.toList with
        | .inr kept => some (held ++ kept) :: gather .plain [] ls
        | .inl .plain => some (chomp all) :: gather .plain [] ls
        | .inl m => gather m all ls

/-- Leaves out the mark at the beginning of a file that tells its encoding. -/
def skipMark : Bytes → Bytes
  | 0xEF :: 0xBB :: 0xBF :: rest => rest
  | bytes => bytes

/-- The logical lines of a file. -/
def entries (content : Bytes) : List (Option (List Char)) :=
  gather .plain [] (splitLines (skipMark content))

/-! ## Values -/

/-- How the value of another variable is being named. -/
inductive Naming where
  | no
  /-- After a dollar sign. -/
  | plain
  /-- Between braces after a dollar sign. -/
  | braces
  deriving DecidableEq, Repr

/-- The state of reading a value. -/
structure Reading where
  single : Bool
  double : Bool
  escaped : Bool
  /-- Only blanks and a comment may follow. -/
  ending : Bool
  naming : Naming
  /-- The name of the other variable so far. -/
  name : List Char
  /-- The value so far. -/
  made : List Char

namespace Reading

/-- The state at the beginning of a value. -/
def start : Reading := ⟨false, false, false, false, .no, [], []⟩

/-- Adds a character to the value. -/
def push (r : Reading) (c : Char) : Reading := { r with made := r.made ++ [c] }

/-- Puts the value of the named variable in. -/
def substitute (lookup : String → String) (r : Reading) : Reading :=
  { r with made := r.made ++ (lookup (String.ofList r.name)).toList, name := [] }

/-- Reads the character after a backslash. -/
def unescape? (r : Reading) (c : Char) : Option Reading :=
  let r := { r with escaped := false }
  if c = 'n' then some (r.push '\n')
  else if c = '\\' || c = '\'' || c = '"' || c = '$' || c = ' ' then some (r.push c)
  else none

/-- Reads a character while a variable is being named. -/
def named (lookup : String → String) (r : Reading) (c : Char) : Reading :=
  if Text.isAlphanumeric c then { r with name := r.name ++ [c] }
  else if r.naming = .braces then
    if c = '\x7d' then { r.substitute lookup with naming := .no }
    else { r with name := r.name ++ [c] }
  else if c = '\x7b' && r.name.isEmpty then { r with naming := .braces }
  else
    let r := r.substitute lookup
    if c = '$' then { r with naming := .plain } else { r with naming := .no }.push c

/-- Reads a character outside of single quotes. -/
def unquoted (r : Reading) (c : Char) : Reading :=
  if c = '$' then { r with naming := .plain }
  else if c = '\\' then { r with escaped := true }
  else if r.double then (if c = '"' then { r with double := false } else r.push c)
  else if c = '\'' then { r with single := true }
  else if c = '"' then { r with double := true }
  else if c = ' ' || c = '\t' then { r with ending := true }
  else r.push c

/-- The value, if all quotes and braces are closed. -/
def finish? (lookup : String → String) (r : Reading) : Option String :=
  if r.naming = .braces || r.single || r.double then none
  else some (String.ofList (r.substitute lookup).made)

/-- Reads a value. -/
def value? (lookup : String → String) (r : Reading) : List Char → Option String
  | [] => r.finish? lookup
  | c :: rest =>
    if r.ending then
      if c = ' ' || c = '\t' then value? lookup r rest
      else if c = '#' then r.finish? lookup
      else none
    else if r.escaped then
      match r.unescape? c with
      | some r => value? lookup r rest
      | none => none
    else if r.single then
      value? lookup (if c = '\'' then { r with single := false } else r.push c) rest
    else if r.naming ≠ .no then value? lookup (r.named lookup c) rest
    else value? lookup (r.unquoted c) rest

end Reading

/-! ## Lines -/

/-- Leaves out blanks. -/
def skip (cs : List Char) : List Char := cs.dropWhile Text.isBlank

/-- Whether a character can begin a name. -/
def startsName (c : Char) : Bool := c.isAlpha || c = '_'

/-- Reads a name. -/
def name? (cs : List Char) : Option (String × List Char) :=
  if cs.head?.any startsName then
    let (name, rest) := cs.span fun c => c.isAlphanum || c = '_' || c = '.'
    some (String.ofList name, rest)
  else none

/-- Reads a name and the equals sign after it. The word `export` may stand before the name. -/
def target? (cs : List Char) : Option (String × List Char) := do
  let (name, rest) ← name? cs
  match skip rest with
  | '=' :: rest => return (name, rest)
  | rest =>
    if name = "export" then do
      let (name, rest) ← name? rest
      match skip rest with
      | '=' :: rest => return (name, rest)
      | _ => none
    else none

/-- Reads a logical line: nothing if it is empty or a comment, otherwise a name and a value. -/
def line? (lookup : String → String) (cs : List Char) : Option (Option (String × String)) :=
  match skip (Text.trimEnd cs) with
  | [] => some none
  | '#' :: _ => some none
  | cs => do
    let (name, rest) ← target? cs
    match skip rest with
    | [] => return some (name, "")
    | '#' :: _ => return some (name, "")
    | rest => do
      let v ← Reading.start.value? lookup rest
      return some (name, v)

/-- Reads a variable of the process. The process keeps its variables as texts `name=value`, so a
name with an equals sign in it finds a variable whose value goes on like the name. -/
def processVariable? (vars : Variables) (name : String) : Option String :=
  let cs := name.toList
  match cs.dropWhile (· ≠ '=') with
  | [] => vars.get? name
  | _ :: more => do
    let value ← vars.get? (String.ofList (cs.takeWhile (· ≠ '=')))
    let rest ← Override.stripStart? (more ++ ['=']) value.toList
    return String.ofList rest

/-- The value of a variable that is put in: that of the process, or else the last one of the
file. -/
def lookupIn (vars written : Variables) (name : String) : String :=
  ((processVariable? vars name).orElse fun _ => written.get? name).getD ""

/-- Adds the variables of logical lines. A variable that is there already keeps its value. -/
def addAll (vars written : Variables) : List (Option (List Char)) → Variables
  | [] => vars
  | none :: _ => vars
  | some l :: ls =>
    match line? (lookupIn vars written) l with
    | none => vars
    | some none => addAll vars written ls
    | some (some (name, value)) =>
      let vars' := if vars.contains name then vars else vars.insert name value
      addAll vars' (written.insert name value) ls

/-- Adds the variables of a file to those that are there. -/
def load (vars : Variables) (content : Bytes) : Variables := addAll vars .empty (entries content)

end Pipework.EnvFile
