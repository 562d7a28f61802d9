import Pipework.Pattern.Basic
import Pipework.Text.Ascii
import Pipework.Text.Split

set_option autoImplicit false

/-!
# Log filters

A log filter is a list of directives between commas, where empty ones count for nothing. A
directive is a level or a target; a span with the fields it has may follow the target or stand in
its place, and a level may follow with `=` between them.

## Main definitions

* `Filter.directives` — the directives of a filter.
* `Filter.Part` — the parts of a directive, and `Filter.Part.next?`, which goes from one to another.
* `Filter.isDirective` — the form of a directive.
* `Filter.isValid` — all directives of a filter have the form.

## Implementation notes

The parts of a directive are found in its text without the blanks around it, but read at the same
places of the text with them, where a place is a number of bytes. A directive with blanks in front
therefore never has a level that can be read, and what is read as a field begins before it. What
would be cut inside a character cannot be read.
-/

namespace Pipework.Filter

/-- The directives of a filter. -/
def directives (s : String) : List (List Char) :=
  (Text.pieces ',' s.toList).filter fun d => !d.isEmpty

/-- The words for the levels. -/
def levelWords : List String := ["off", "error", "warn", "info", "debug", "trace"]

/-- Whether a text is a number from 0 to 5, perhaps with a plus sign and leading zeros. -/
def isLevelNumber (l : List Char) : Bool :=
  let digits := match l with
    | '+' :: rest => rest
    | _ => l
  match digits.dropWhile (· = '0') with
  | [] => !digits.isEmpty
  | [c] => '1' ≤ c && c ≤ '5'
  | _ => false

/-- Whether a text names a level: nothing at all, a word in any case, or a number. -/
def isLevel (l : List Char) : Bool :=
  l.isEmpty || levelWords.contains (Ascii.lower (String.ofList l)) || isLevelNumber l

/-- Whether a text without a sign is a number with a fraction or an exponent, or a word for one. -/
def isMagnitude (l : List Char) : Bool :=
  if ["inf", "infinity", "nan"].contains (Ascii.lower (String.ofList l)) then true
  else
    let whole := l.takeWhile Char.isDigit
    let (fraction, rest) := match l.dropWhile Char.isDigit with
      | '.' :: rest => rest.span Char.isDigit
      | rest => ([], rest)
    let isEnd := match rest with
      | [] => true
      | e :: rest =>
        let digits := match rest with
          | '+' :: r => r
          | '-' :: r => r
          | r => r
        (e = 'e' || e = 'E') && !digits.isEmpty && digits.all Char.isDigit
    !(whole.isEmpty && fraction.isEmpty) && isEnd

/-- Whether the value of a field can be compared with: it is a number, or a pattern. Only with a
plus sign in front a number is no pattern. -/
def isFieldValue : List Char → Bool
  | '+' :: l => isMagnitude l
  | l => Pattern.isPattern l

/-- Whether a text is a field: a name, perhaps with a value. -/
def isField (l : List Char) : Bool :=
  match Text.pieces '=' l with
  | _ :: value :: _ => !l.isEmpty && isFieldValue value
  | _ => !l.isEmpty

/-! ## Places -/

/-- What remains of a text after a number of bytes. -/
def after? : (bytes : Nat) → List Char → Option (List Char)
  | 0, l => some l
  | _ + 1, [] => none
  | n + 1, c :: l => if c.utf8Size ≤ n + 1 then after? (n + 1 - c.utf8Size) l else none

/-- The beginning of a text that takes a number of bytes. -/
def before? : (bytes : Nat) → List Char → Option (List Char)
  | 0, _ => some []
  | _ + 1, [] => none
  | n + 1, c :: l =>
    if c.utf8Size ≤ n + 1 then (before? (n + 1 - c.utf8Size) l).map (c :: ·) else none

/-- The part of a text from one place up to another. -/
def between? (l : List Char) (first last : Nat) : Option (List Char) :=
  (after? first l).bind (before? (last - first))

/-! ## Parts -/

/-- The part of a directive that is being read. -/
inductive Part where
  | start
  /-- A level or a target. -/
  | name
  /-- A span, up to its fields or its closing bracket. -/
  | span
  /-- A field that begins at a place of the directive. -/
  | field (place : Nat)
  /-- After the fields of a span. -/
  | spanEnd
  /-- After a span. -/
  | target
  /-- A level that begins at a place of the directive. -/
  | level (place : Nat)
  deriving DecidableEq

/-- Whether a directive may begin with a character. -/
def mayStart (c : Char) : Bool :=
  c = '-' || c = ':' || c = '_' || Text.isAlphanumeric c

/-- The part of a directive after the character `c` at the place `i`; `d` is the directive. -/
def Part.next? (d : List Char) (i : Nat) : Part → Char → Option Part
  | .start, c => if c = '[' then some .span else if mayStart c then some .name else none
  | .name, c =>
    if c = '=' then some (.level (i + 1)) else if c = '[' then some .span else some .name
  | .span, c =>
    if c = ']' then some .target else if c = '\x7b' then some (.field (i + 1)) else some .span
  | .field place, c =>
    if c ≠ '\x7d' then some (.field place)
    else if (between? d place i).any isField then some .spanEnd
    else none
  | .spanEnd, c => if c = ']' then some .target else none
  | .target, c => if c = '=' then some (.level (i + 1)) else none
  | .level place, _ => some (.level place)

/-- The last part of a directive; `i` is the place of the characters that remain. -/
def lastPart? (d : List Char) (i : Nat) (p : Part) : List Char → Option Part
  | [] => some p
  | c :: rest => (p.next? d i c).bind fun q => lastPart? d (i + c.utf8Size) q rest

/-- Whether a text has the form of a directive. -/
def isDirective (d : List Char) : Bool :=
  match lastPart? d 0 .start (Text.trim d) with
  | some .name => true
  | some .target => true
  | some (.level place) => (after? place d).any isLevel
  | _ => false

/-- Whether a text is a filter. -/
def isValid (s : String) : Bool := (directives s).all isDirective

end Pipework.Filter
