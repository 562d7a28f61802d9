import Pipework.Text.Split
import Pipework.Text.Utf8

set_option autoImplicit false

/-!
# The working directory

Configuration files lie in the working directory or in directories inside of it. Nothing is known
of the rest of the file system but that the directories above exist.

## Main definitions

* `Directory` — the files and directories in the working directory, put there by `Directory.put`.
* `Place` — where a path leads.
* `Directory.find?` — what lies at a path.
* `extension?` — the end of the name of a file.
-/

namespace Pipework

/-- What lies under a name. -/
inductive DirEntry where
  | file (content : Bytes)
  | directory
  deriving DecidableEq

/-- The names on the way from the working directory to a place, the last one first. -/
abbrev Way := List String

/-- A place that a path leads to. -/
inductive Place where
  | inside (way : Way)
  /-- The directories above. -/
  | above
  deriving DecidableEq

/-- The steps of a path, between its slashes. -/
def pathSteps (path : String) : List String := (Text.pieces '/' path.toList).map String.ofList

/-- The place one step on. -/
def Place.step : Place → String → Place
  | .above, _ => .above
  | .inside way, s =>
    if s = "" || s = "." then .inside way
    else if s = ".." then
      match way with
      | [] => .above
      | _ :: outer => .inside outer
    else .inside (s :: way)

/-- What has been put into the working directory, the newest first. -/
structure Directory where
  entries : List (Way × DirEntry)

namespace Directory

/-- The empty directory. -/
def empty : Directory := ⟨[]⟩

/-- Puts a file or a directory under a path, together with the directories on the way. What was
there before is replaced. -/
def put (d : Directory) (path : String) (e : DirEntry) : Directory :=
  match (pathSteps path).foldl Place.step (.inside []) with
  | .inside way => ⟨(way, e) :: d.entries⟩
  | .above => d

/-- What lies at the end of a way. A directory is there as soon as something lies in it. -/
def entry? (d : Directory) (way : Way) : Option DirEntry :=
  match d.entries.find? fun e => e.1 = way with
  | some e => some e.2
  | none => if way = [] || d.entries.any fun e => way.isSuffixOf e.1 then some .directory else none

/-- What lies at a place. -/
def at? (d : Directory) : Place → Option DirEntry
  | .inside way => d.entry? way
  | .above => some .directory

/-- Follows one step of a path. Only a directory can be stepped into, and a name above the working
directory is not known. -/
def follow? (d : Directory) (p : Place) (s : String) : Option Place :=
  if d.at? p ≠ some .directory then none
  else if p = .above then (if s = "" || s = "." || s = ".." then some .above else none)
  else
    let next := p.step s
    if (d.at? next).isSome then some next else none

/-- The largest number of bytes in a path. -/
def maxPathBytes : Nat := 4095

/-- What lies at a path. A path that begins with a slash does not lead into the working
directory. -/
def find? (d : Directory) (path : String) : Option DirEntry :=
  if path.isEmpty || maxPathBytes < path.utf8ByteSize then none
  else
    let start := if path.toList.head? = some '/' then Place.above else .inside []
    ((pathSteps path).foldlM (follow? d) start).bind d.at?

end Directory

/-- What follows the last point in the name of a file; a point at the beginning of the name does not
count. -/
def extension? (path : String) : Option String :=
  let names := (pathSteps path).filter fun s => s ≠ "" && s ≠ "."
  match names.getLast? with
  | none => none
  | some name =>
    let after := (name.toList.reverse.takeWhile fun c => c ≠ '.').reverse
    let before := name.length - after.length
    if name = ".." || before ≤ 1 then none else some (String.ofList after)

end Pipework
