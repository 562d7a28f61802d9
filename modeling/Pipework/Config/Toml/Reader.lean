import Pipework.Config.Toml.Moment
import Pipework.Config.Toml.Number
import Pipework.Config.Toml.Table
import Pipework.Config.Toml.Text

set_option autoImplicit false

/-!
# Reading TOML

A text is a list of lines: keys with values, headers of tables, comments and empty lines. Either
the whole text follows the rules or there is no document.

## Main definitions

* `Toml.value?` — reads a value.
* `Toml.Draft` — the tables read so far and the one that is being filled.
* `Toml.read?` — reads a whole text.
-/

namespace Pipework.Toml

/-- Leaves out blanks, comments and ends of lines. `fuel` bounds the number of comments. -/
def skipFiller : (fuel : Nat) → List Char → List Char
  | 0, cs => cs
  | fuel + 1, cs =>
    match skipLines cs with
    | '#' :: rest => skipFiller fuel (rest.dropWhile isLineChar)
    | rest => rest

/-- Leaves out everything that may stand between the elements of an array. -/
def skipGap (cs : List Char) : List Char := skipFiller (cs.length + 1) cs

/-- Reads a value that is no container. -/
def scalar (cs : List Char) : Option (Node × List Char) :=
  match cs with
  | '"' :: _ => (text? cs).map fun r => (.str r.1, r.2)
  | '\'' :: _ => (text? cs).map fun r => (.str r.1, r.2)
  | 't' :: 'r' :: 'u' :: 'e' :: rest => some (.bool true, rest)
  | 'f' :: 'a' :: 'l' :: 's' :: 'e' :: rest => some (.bool false, rest)
  | _ =>
    match moment? cs with
    | some (text, rest) => some (.moment text, rest)
    | none => number? cs

mutual

/-- Reads a value inside `depth` containers. `fuel` bounds the number of steps; the length of the
text is enough. -/
def value? (depth : Nat) : (fuel : Nat) → List Char → Option (Node × List Char)
  | 0, _ => none
  | fuel + 1, cs =>
    match cs with
    | '[' :: rest =>
      if maxDepth ≤ depth then none
      else (elements? (depth + 1) fuel rest).map fun r => (.seq r.1 true, r.2)
    | '\x7b' :: rest =>
      if maxDepth ≤ depth then none
      else
        match skipBlanks rest with
        | '\x7d' :: rest => some (.table [] true, rest)
        | _ => (pairs? (depth + 1) fuel [] rest).map fun r => (r.1.node, r.2)
    | _ => scalar cs

/-- Reads the elements of an array up to its closing bracket. A comma may follow the last one. -/
def elements? (depth : Nat) : (fuel : Nat) → List Char → Option (List Node × List Char)
  | 0, _ => none
  | fuel + 1, cs =>
    match skipGap cs with
    | ']' :: rest => some ([], rest)
    | cs =>
      match value? depth fuel cs with
      | none => none
      | some (v, rest) =>
        match skipGap rest with
        | ']' :: rest => some ([v], rest)
        | ',' :: rest => (elements? depth fuel rest).map fun r => (v :: r.1, r.2)
        | _ => none

/-- Reads the keys and values of a table on one line up to its closing brace. -/
def pairs? (depth : Nat) : (fuel : Nat) → Entries → List Char → Option (Entries × List Char)
  | 0, _, _ => none
  | fuel + 1, es, cs =>
    match key? cs with
    | some (path, k, '=' :: rest) =>
      match value? depth fuel (skipBlanks rest) with
      | none => none
      | some (v, rest) =>
        match es.put? path k v, skipBlanks rest with
        | some es, '\x7d' :: rest => some (es, rest)
        | some es, ',' :: rest => pairs? depth fuel es rest
        | _, _ => none
    | _ => none

end

/-- The tables read so far, and the table that is being filled. -/
structure Draft where
  root : Entries
  /-- The keys that lead to the table that is being filled; none for the outermost one. -/
  path : List String
  /-- Whether the header of the table can be repeated. -/
  repeated : Bool
  /-- The table that is being filled. -/
  entries : Entries

namespace Draft

/-- Nothing has been read. -/
def empty : Draft := ⟨[], [], false, []⟩

/-- Puts the table that is being filled into its place. -/
def close? (d : Draft) : Option Entries :=
  match d.path.getLast? with
  | none => some d.entries
  | some k =>
    let place (_ : Origin) (es : Entries) : Option (Entries × Unit) :=
      if d.repeated then
        match es.get? k with
        | none => some (es ++ [(k, .tables [d.entries])], ())
        | some (.tables all) => some (es.replace k (.tables (all ++ [d.entries])), ())
        | some _ => none
      else some (es.remove k ++ [(k, .table .header d.entries)], ())
    (Entries.at? false place d.path.dropLast .header d.root).map Prod.fst

/-- Begins a table by its header. A table that was implied by the header of a table inside it keeps
what it holds, and moves behind the other keys. -/
def openTable? (d : Draft) (path : List String) : Option Draft := do
  let root ← d.close?
  let k ← path.getLast?
  let take (_ : Origin) (es : Entries) : Option (Entries × Entries) :=
    match es.get? k with
    | none => some (es, [])
    | some (.table .implied held) => some (es.remove k, held)
    | some _ => none
  let (root, held) ← Entries.at? false take path.dropLast .header root
  return ⟨root, path, false, held⟩

/-- Begins a table whose header can be repeated. -/
def openRepeated? (d : Draft) (path : List String) : Option Draft := do
  let root ← d.close?
  let k ← path.getLast?
  let check (_ : Origin) (es : Entries) : Option (Entries × Unit) :=
    match es.get? k with
    | none => some (es ++ [(k, .tables [])], ())
    | some (.tables _) => some (es, ())
    | some _ => none
  let (root, _) ← Entries.at? false check path.dropLast .header root
  return ⟨root, path, true, []⟩

end Draft

/-- Reads one line: what it adds, and the text after it. -/
def line? (d : Draft) (cs : List Char) : Option (Draft × List Char) :=
  match cs with
  | '#' :: _ => (lineEnd? cs).map fun rest => (d, rest)
  | '\n' :: rest => some (d, rest)
  | '\r' :: '\n' :: rest => some (d, rest)
  | '[' :: '[' :: rest => do
    let (path, k, rest) ← key? rest
    match rest with
    | ']' :: ']' :: rest => do
      let rest ← lineEnd? rest
      let d ← d.openRepeated? (path ++ [k])
      return (d, rest)
    | _ => none
  | '[' :: rest => do
    let (path, k, rest) ← key? rest
    match rest with
    | ']' :: rest => do
      let rest ← lineEnd? rest
      let d ← d.openTable? (path ++ [k])
      return (d, rest)
    | _ => none
  | _ => do
    let (path, k, rest) ← key? cs
    match rest with
    | '=' :: rest => do
      let (v, rest) ← value? 0 (2 * rest.length + 2) (skipBlanks rest)
      let rest ← lineEnd? rest
      let entries ← d.entries.put? path k v
      return ({ d with entries := entries }, rest)
    | _ => none

/-- Reads lines up to the end of the text. `fuel` bounds their number. -/
def lines? : (fuel : Nat) → Draft → List Char → Option Draft
  | 0, _, _ => none
  | fuel + 1, d, cs =>
    match skipBlanks cs with
    | [] => some d
    | cs => do
      let (d, rest) ← line? d cs
      lines? fuel d rest

/-- Leaves out the mark at the beginning of a text that tells its encoding. -/
def skipMark : List Char → List Char
  | '\uFEFF' :: rest => rest
  | cs => cs

/-- Reads a whole text. -/
def read? (s : String) : Option Node := do
  let cs := skipMark s.toList
  let d ← lines? (cs.length + 1) .empty cs
  let root ← d.close?
  return root.node

end Pipework.Toml
