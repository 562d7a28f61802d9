import Pipework.Config.Json.Number
import Pipework.Config.Json.Text

set_option autoImplicit false

/-!
# Reading JSON

A text is read from left to right into a document that breaks off where the text stops following
the rules.

## Main definitions

* `Json.value` — reads a value and gives the text after it, if it is whole.
* `Json.read` — reads a whole text.
-/

namespace Pipework.Json

/-- Leaves out blanks. -/
def skip : List Char → List Char
  | [] => []
  | c :: rest => if c = ' ' || c = '\t' || c = '\n' || c = '\r' then skip rest else c :: rest

/-- A value, and the text after it unless the value breaks off. -/
abbrev Reading := Node × Option (List Char)

/-- A value that breaks off at once. -/
def stuck : Reading := (.broken, none)

/-- Reads the rest of a word that stands for `n`. -/
def word (n : Node) (letters rest : List Char) : Reading :=
  if letters.isPrefixOf rest then (n, some (rest.drop letters.length)) else stuck

/-- Takes a leaf, or breaks off. -/
def leaf : Option (Node × List Char) → Reading
  | some (n, rest) => (n, some rest)
  | none => stuck

/-- Reads the name of a member. -/
def key? (cs : List Char) : Option (String × List Char) :=
  match skip cs with
  | '"' :: rest => text? rest
  | _ => none

mutual

/-- Reads a value. `fuel` bounds the number of steps; the length of the text is enough. -/
def value : (fuel : Nat) → List Char → Reading
  | 0, _ => stuck
  | fuel + 1, cs =>
    match skip cs with
    | 'n' :: rest => word .null ['u', 'l', 'l'] rest
    | 't' :: rest => word (.bool true) ['r', 'u', 'e'] rest
    | 'f' :: rest => word (.bool false) ['a', 'l', 's', 'e'] rest
    | '"' :: rest => leaf ((text? rest).map fun r => (.str r.1, r.2))
    | '[' :: rest =>
      match skip rest with
      | ']' :: rest' => (.seq [] true, some rest')
      | _ =>
        let (items, after) := items fuel rest
        (.seq items after.isSome, after)
    | '\x7b' :: rest =>
      match skip rest with
      | '\x7d' :: rest' => (.table [] true, some rest')
      | _ =>
        let (members, after) := members fuel rest
        (.table members after.isSome, after)
    | cs => leaf (number? cs)

/-- Reads elements up to the closing bracket. -/
def items : (fuel : Nat) → List Char → List Node × Option (List Char)
  | 0, _ => ([], none)
  | fuel + 1, cs =>
    let (v, after) := value fuel cs
    match after with
    | none => ([v], none)
    | some rest =>
      match skip rest with
      | ']' :: rest' => ([v], some rest')
      | ',' :: rest' =>
        let (vs, after) := items fuel rest'
        (v :: vs, after)
      | _ => ([v], none)

/-- Reads members up to the closing brace. A key is kept even if no value follows it. -/
def members : (fuel : Nat) → List Char → List (String × Node) × Option (List Char)
  | 0, _ => ([], none)
  | fuel + 1, cs =>
    match key? cs with
    | none => ([], none)
    | some (k, rest) =>
      match skip rest with
      | ':' :: rest' =>
        let (v, after) := value fuel rest'
        match after with
        | none => ([(k, v)], none)
        | some rest =>
          match skip rest with
          | '\x7d' :: rest' => ([(k, v)], some rest')
          | ',' :: rest' =>
            let (ms, after) := members fuel rest'
            ((k, v) :: ms, after)
          | _ => ([(k, v)], none)
      | _ => ([(k, .broken)], none)

end

/-- Reads a whole text: a document, and whether nothing but blanks follows it. -/
def read (s : String) : Node × Bool :=
  let cs := s.toList
  let (n, after) := value (2 * cs.length + 2) cs
  (n, after.any fun rest => (skip rest).isEmpty)

end Pipework.Json
