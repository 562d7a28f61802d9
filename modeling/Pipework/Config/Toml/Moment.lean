set_option autoImplicit false

/-!
# Dates and times in TOML

A date, a time, or a date and a time with or without an offset. All fields have a fixed width, and
their values are checked against the calendar.

## Main definitions

* `Toml.moment?` — reads a date, a time or both and gives its text.
-/

namespace Pipework.Toml

/-- Reads a number of exactly `n` digits. -/
def fixed? (n : Nat) (cs : List Char) : Option (Nat × List Char) :=
  let ds := cs.take n
  if ds.length = n && ds.all Char.isDigit then
    some (ds.foldl (fun a c => a * 10 + (c.toNat - '0'.toNat)) 0, cs.drop n)
  else none

/-- Reads a number of two digits from `lo` to `hi`. -/
def pair? (lo hi : Nat) (cs : List Char) : Option (Nat × List Char) := do
  let (n, rest) ← fixed? 2 cs
  if lo ≤ n && n ≤ hi then some (n, rest) else none

/-- Reads one character. -/
def expect? (c : Char) : List Char → Option (List Char)
  | d :: rest => if d = c then some rest else none
  | [] => none

/-- Whether a year has a leap day. -/
def isLeap (year : Nat) : Bool := year % 4 = 0 && (year % 100 ≠ 0 || year % 400 = 0)

/-- How many days a month has. -/
def daysIn (year month : Nat) : Nat :=
  if month = 2 then (if isLeap year then 29 else 28)
  else if month = 4 || month = 6 || month = 9 || month = 11 then 30
  else 31

/-- A number with zeros in front up to a width. -/
def padded (width n : Nat) : String :=
  let text := toString n
  String.ofList (List.replicate (width - text.length) '0') ++ text

/-- Reads a date. -/
def date? (cs : List Char) : Option (String × List Char) := do
  let (year, cs) ← fixed? 4 cs
  let cs ← expect? '-' cs
  let (month, cs) ← pair? 1 12 cs
  let cs ← expect? '-' cs
  let (day, cs) ← pair? 1 31 cs
  if daysIn year month < day then none
  else some (s!"{padded 4 year}-{padded 2 month}-{padded 2 day}", cs)

/-- Reads a fraction of a second, if there is one. -/
def secondFraction? : List Char → Option (String × List Char)
  | '.' :: rest =>
    let (ds, rest) := rest.span Char.isDigit
    if ds.isEmpty then none
    else
      let shown := ((ds.take 9).reverse.dropWhile fun c => c = '0').reverse
      some (if shown.isEmpty then "" else "." ++ String.ofList shown, rest)
  | cs => some ("", cs)

/-- Reads a time of the day. -/
def time? (cs : List Char) : Option (String × List Char) := do
  let (hour, cs) ← pair? 0 23 cs
  let cs ← expect? ':' cs
  let (minute, cs) ← pair? 0 59 cs
  let cs ← expect? ':' cs
  let (second, cs) ← pair? 0 60 cs
  let (fraction, cs) ← secondFraction? cs
  return (s!"{padded 2 hour}:{padded 2 minute}:{padded 2 second}{fraction}", cs)

/-- Reads an offset of hours and minutes after its sign. A negative offset of nothing is written
with a plus. -/
def hours? (negative : Bool) (cs : List Char) : Option (String × List Char) := do
  let (hour, cs) ← pair? 0 23 cs
  let cs ← expect? ':' cs
  let (minute, cs) ← pair? 0 59 cs
  let sign := if negative && 0 < hour + minute then "-" else "+"
  return (s!"{sign}{padded 2 hour}:{padded 2 minute}", cs)

/-- Reads an offset, if there is one. -/
def offset (cs : List Char) : String × List Char :=
  let found : Option (String × List Char) :=
    match cs with
    | 'Z' :: rest => some ("Z", rest)
    | 'z' :: rest => some ("Z", rest)
    | '+' :: rest => hours? false rest
    | '-' :: rest => hours? true rest
    | _ => none
  found.getD ("", cs)

/-- Reads a time and an offset after a date and the mark between them. -/
def afterDate? : List Char → Option (String × List Char)
  | c :: rest =>
    if c = 'T' || c = 't' || c = ' ' then
      (time? rest).map fun r =>
        let (shift, rest) := offset r.2
        ("T" ++ r.1 ++ shift, rest)
    else none
  | [] => none

/-- Reads a date, a time or both. -/
def moment? (cs : List Char) : Option (String × List Char) :=
  match date? cs with
  | some (date, rest) =>
    let (time, rest) := (afterDate? rest).getD ("", rest)
    some (date ++ time, rest)
  | none => time? cs

end Pipework.Toml
