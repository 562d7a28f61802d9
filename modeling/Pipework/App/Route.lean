import Pipework.Text.Ascii
import Pipework.Text.Slice

set_option autoImplicit false

/-!
# Routes

A branch is mounted under a path. It receives the requests whose path starts with the mount, up to
the case of ASCII letters, provided that the mount ends where a segment of the path ends.

## Main definitions

* `Route.remainder?` — the part of a path behind a mount.
* `Route.remainderBytes` — the same on the bytes of the two texts.
* `Route.check` — the paths under which a branch can be mounted.
-/

namespace Pipework.Route

/-- Takes `mount` off the front of a path, ignoring the case of ASCII letters. -/
def strip? : (mount path : List Char) → Option (List Char)
  | [], path => some path
  | m :: mount, c :: path => if Ascii.sameLetter m c then strip? mount path else none
  | _ :: _, [] => none

/-- Whether a segment of a path ends here. -/
def isSegmentEnd : List Char → Bool
  | [] => true
  | c :: _ => c = '/'

/-- The part of `path` behind `mount`, if `mount` is made of whole leading segments of it. -/
def remainder? (mount path : String) : Option String :=
  (strip? mount.toList path.toList).bind fun rest =>
    if isSegmentEnd rest then some (String.ofList rest) else none

/-- The same on bytes. The path is cut behind as many bytes as the mount has, first in a way that
gives nothing where it cannot be cut and then, once its head is the mount, in one that must not. -/
def remainderBytes (mount path : Bytes) : Except Utf8.BadCut (Option Bytes) :=
  match Utf8.front? path mount.length with
  | none => .ok none
  | some head =>
    if Utf8.sameBytes head mount then
      (Utf8.back path mount.length).map fun rest =>
        if rest.isEmpty || rest.head? = some 0x2F then some rest else none
    else .ok none

/-- Why a branch cannot be mounted under a path. -/
inductive Fault where
  | trailingSlash | noLeadingSlash
  deriving DecidableEq, Repr

/-- The text of a fault. -/
def Fault.message : Fault → String
  | .trailingSlash => "must not end with '/'"
  | .noLeadingSlash => "must start with '/'"

/-- A mount is empty, or starts with a slash and does not end with one. -/
def check (mount : String) : Except Fault Unit :=
  match mount.toList with
  | [] => pure ()
  | c :: cs =>
    if (c :: cs).getLast? = some '/' then throw .trailingSlash
    else if c ≠ '/' then throw .noLeadingSlash
    else pure ()

end Pipework.Route
