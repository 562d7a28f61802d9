import Pipework.Config.Document

set_option autoImplicit false

/-!
# Tables under construction

The tables of a TOML text are made in three ways: by a header of their own, by a header of a table
inside them, or by a key of several parts. The way decides what may be added to a table later.

## Main definitions

* `Toml.Item`, `Toml.Entries` — what a table holds while it is made.
* `Toml.Entries.at?` — changes the table at the end of a path, making the tables on the way.
* `Toml.Entries.put?` — adds a value under a key of several parts.
* `Toml.Entries.node` — the finished table.
-/

namespace Pipework.Toml

/-- How a table was made. -/
inductive Origin where
  /-- By a header of its own, or as the outermost table. -/
  | header
  /-- By the header of a table inside it. -/
  | implied
  /-- By a key of several parts. -/
  | dotted
  deriving DecidableEq, Repr

/-- What stands under a key. -/
inductive Item where
  | value (n : Node)
  | table (origin : Origin) (entries : List (String × Item))
  /-- Tables that have one header, which is repeated; the newest one is last. -/
  | tables (all : List (List (String × Item)))

/-- What a table holds, in the order in which the keys were added. -/
abbrev Entries := List (String × Item)

mutual

/-- The finished form of an item. -/
def Item.node : Item → Node
  | .value n => n
  | .table _ entries => .table (membersOf entries) true
  | .tables all => .seq (tablesOf all) true

/-- The members of a table. -/
def membersOf : List (String × Item) → List (String × Node)
  | [] => []
  | (k, i) :: rest => (k, i.node) :: membersOf rest

/-- The elements of a sequence of tables. -/
def tablesOf : List (List (String × Item)) → List Node
  | [] => []
  | entries :: rest => .table (membersOf entries) true :: tablesOf rest

end

namespace Entries

/-- The finished table. -/
def node (es : Entries) : Node := .table (membersOf es) true

/-- What stands under a key. -/
def get? (es : Entries) (k : String) : Option Item := (es.find? fun e => e.1 = k).map Prod.snd

/-- Replaces what stands under a key. -/
def replace (es : Entries) (k : String) (i : Item) : Entries :=
  es.map fun e => if e.1 = k then (k, i) else e

/-- Leaves out a key. -/
def remove (es : Entries) (k : String) : Entries := es.filter fun e => e.1 ≠ k

/-- Changes the last element of a list. -/
def mapLast? {α β : Type} (f : α → Option (α × β)) : List α → Option (List α × β)
  | [] => none
  | [a] => (f a).map fun r => ([r.1], r.2)
  | a :: rest => (mapLast? f rest).map fun r => (a :: r.1, r.2)

/-- Changes the table at the end of a path by `f` and gives what `f` gives besides. Tables that are
missing on the way are made; of repeated tables the newest is taken. A path of a key of several
parts (`dotted`) cannot lead through a table that has a header of its own. -/
def at? {β : Type} (dotted : Bool) (f : Origin → Entries → Option (Entries × β)) :
    (path : List String) → Origin → Entries → Option (Entries × β)
  | [], origin, es => f origin es
  | k :: ks, _, es =>
    match get? es k with
    | none =>
      let origin := if dotted then .dotted else .implied
      (at? dotted f ks origin []).map fun r => (es ++ [(k, .table origin r.1)], r.2)
    | some (.value _) => none
    | some (.tables all) =>
      (mapLast? (at? dotted f ks .header) all).map fun r => (replace es k (.tables r.1), r.2)
    | some (.table origin sub) =>
      if dotted && origin = .header then none
      else (at? dotted f ks origin sub).map fun r => (replace es k (.table origin r.1), r.2)

/-- Adds a value under a key of several parts. The table that takes the value was made by a key of
several parts if and only if this key has several. -/
def put? (es : Entries) (path : List String) (k : String) (n : Node) : Option Entries :=
  let add (origin : Origin) (es : Entries) : Option (Entries × Unit) :=
    if decide (origin = .dotted) = path.isEmpty then none
    else if (get? es k).isSome then none
    else some (es ++ [(k, .value n)], ())
  (at? true add path .header es).map Prod.fst

end Entries

end Pipework.Toml
