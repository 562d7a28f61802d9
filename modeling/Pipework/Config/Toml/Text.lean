import Pipework.Config.Json.Text

set_option autoImplicit false

/-!
# Texts and keys in TOML

Texts stand between quotes, on one line between single ones and on several lines between triple
ones. Between double quotes escapes are replaced.

## Main definitions

* `Toml.text?` — reads a text with its quotes.
* `Toml.key?` — reads a key of one or several parts.
* `Toml.skipBlanks`, `Toml.newline?`, `Toml.lineEnd?` — what stands between values.
-/

namespace Pipework.Toml

/-- Whether a character can stand on a line: all but the control characters other than the
tabulator. -/
def isLineChar (c : Char) : Bool := c = '\t' || (0x20 ≤ c.val && c.val ≠ 0x7F)

/-- Leaves out spaces and tabulators. -/
def skipBlanks (cs : List Char) : List Char := cs.dropWhile fun c => c = ' ' || c = '\t'

/-- Reads the end of a line. -/
def newline? : List Char → Option (List Char)
  | '\n' :: rest => some rest
  | '\r' :: '\n' :: rest => some rest
  | _ => none

/-- Leaves out a comment, if there is one. -/
def skipComment : List Char → List Char
  | '#' :: rest => rest.dropWhile isLineChar
  | cs => cs

/-- Reads the rest of a line on which only a comment may stand. -/
def lineEnd? (cs : List Char) : Option (List Char) :=
  match skipComment (skipBlanks cs) with
  | [] => some []
  | cs => newline? cs

/-- Leaves out blanks and ends of lines. -/
def skipLines : List Char → List Char
  | ' ' :: rest => skipLines rest
  | '\t' :: rest => skipLines rest
  | '\n' :: rest => skipLines rest
  | '\r' :: '\n' :: rest => skipLines rest
  | cs => cs

/-- The character after a backslash: as in JSON, but a slash needs no escape and has none. -/
def escaped? (c : Char) : Option Char := if c = '/' then none else Json.escaped? c

/-- The character with a number. -/
def scalar? (n : Nat) : Option Char :=
  if n < 0xD800 || (0xE000 ≤ n && n < 0x110000) then some (Char.ofNat n) else none

/-- Reads an escape after its backslash. -/
def escape? : List Char → Option (Char × List Char)
  | 'u' :: a :: b :: c :: d :: rest => do
    let n ← Json.quad? a b c d
    let x ← scalar? n
    return (x, rest)
  | 'U' :: a :: b :: c :: d :: a' :: b' :: c' :: d' :: rest => do
    let n ← Json.quad? a b c d
    let m ← Json.quad? a' b' c' d'
    let x ← scalar? (n * 65536 + m)
    return (x, rest)
  | c :: rest => (escaped? c).map fun x => (x, rest)
  | [] => none

/-- Reads the rest of a text between single double quotes. `fuel` bounds the number of steps. -/
def basic? : (fuel : Nat) → List Char → Option (List Char × List Char)
  | 0, _ => none
  | fuel + 1, cs =>
    match cs with
    | '"' :: rest => some ([], rest)
    | '\\' :: rest => do
      let (x, rest) ← escape? rest
      let (xs, rest) ← basic? fuel rest
      return (x :: xs, rest)
    | c :: rest =>
      if isLineChar c then (basic? fuel rest).map fun r => (c :: r.1, r.2) else none
    | [] => none

/-- Reads the rest of a text between single quotes. -/
def literal? (cs : List Char) : Option (List Char × List Char) :=
  let (xs, rest) := cs.span fun c => c ≠ '\'' && isLineChar c
  match rest with
  | '\'' :: rest => some (xs, rest)
  | _ => none

/-- The quotes at the beginning of a text. -/
def quotes (q : Char) (cs : List Char) : Nat := (cs.takeWhile fun c => c = q).length

/-- Reads the rest of a text between triple quotes `q`; escapes are replaced if `escapes` holds.
Up to two quotes can stand before the closing ones. A backslash at the end of a line leaves out
all blanks and line ends that follow. -/
def block? (q : Char) (escapes : Bool) : (fuel : Nat) → List Char → Option (List Char × List Char)
  | 0, _ => none
  | fuel + 1, cs =>
    let n := quotes q cs
    if 3 ≤ n then
      let k := min n 5
      some (List.replicate (k - 3) q, cs.drop k)
    else
      match cs with
      | '\n' :: rest => (block? q escapes fuel rest).map fun r => ('\n' :: r.1, r.2)
      | '\r' :: '\n' :: rest => (block? q escapes fuel rest).map fun r => ('\n' :: r.1, r.2)
      | '\\' :: rest =>
        if escapes then
          match newline? (skipBlanks rest) with
          | some rest => block? q escapes fuel (skipLines rest)
          | none => do
            let (x, rest) ← escape? rest
            let (xs, rest) ← block? q escapes fuel rest
            return (x :: xs, rest)
        else (block? q escapes fuel rest).map fun r => ('\\' :: r.1, r.2)
      | c :: rest =>
        if isLineChar c then (block? q escapes fuel rest).map fun r => (c :: r.1, r.2) else none
      | [] => none

/-- Leaves out the end of a line right after the opening quotes. -/
def skipFirstNewline (cs : List Char) : List Char := (newline? cs).getD cs

/-- Reads a text with its quotes. -/
def text? (cs : List Char) : Option (String × List Char) :=
  let made : Option (List Char × List Char) :=
    match cs with
    | '"' :: '"' :: '"' :: rest => block? '"' true (rest.length + 1) (skipFirstNewline rest)
    | '"' :: rest => basic? (rest.length + 1) rest
    | '\'' :: '\'' :: '\'' :: rest => block? '\'' false (rest.length + 1) (skipFirstNewline rest)
    | '\'' :: rest => literal? rest
    | _ => none
  made.map fun r => (String.ofList r.1, r.2)

/-- Whether a character can stand in a key without quotes. -/
def isBare (c : Char) : Bool := c.isAlphanum || c = '-' || c = '_'

/-- Reads one part of a key. -/
def part? (cs : List Char) : Option (String × List Char) :=
  match cs with
  | '"' :: rest => (basic? (rest.length + 1) rest).map fun r => (String.ofList r.1, r.2)
  | '\'' :: rest => (literal? rest).map fun r => (String.ofList r.1, r.2)
  | _ =>
    let (name, rest) := cs.span isBare
    if name.isEmpty then none else some (String.ofList name, rest)

/-- Reads the parts of a key, with points between them. -/
def parts? : (fuel : Nat) → List Char → Option (List String × List Char)
  | 0, _ => none
  | fuel + 1, cs => do
    let (name, rest) ← part? (skipBlanks cs)
    match skipBlanks rest with
    | '.' :: rest => do
      let (names, rest) ← parts? fuel rest
      return (name :: names, rest)
    | rest => return ([name], rest)

/-- How many parts a key may have, and how many containers may enclose a value. -/
def maxDepth : Nat := 79

/-- Reads a key: the names of the tables that lead to it, its own name, and the text after it. -/
def key? (cs : List Char) : Option (List String × String × List Char) := do
  let (names, rest) ← parts? (cs.length + 1) cs
  if maxDepth < names.length then none
  else
    let name ← names.getLast?
    return (names.dropLast, name, rest)

end Pipework.Toml
