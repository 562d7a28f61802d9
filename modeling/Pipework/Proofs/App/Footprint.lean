import Mathlib.Data.Set.Basic
import Mathlib.Tactic.Common
import Pipework.Engine.State

set_option autoImplicit false

/-!
# The footprint of an app

An app that belongs to a component looks for what it wraps in a cell, and what it finds there may
look in further cells. These cells are the footprint of the app. What the app does depends on
nothing else in the state.

## Main definitions

* `App.cells` — the cells in which an app looks itself.
* `State.Reaches` — the footprint of an app.

## Main results

* `App.run_congr` — states that agree on a footprint run an app in the same way.
-/

namespace Pipework

/-- The cells in which an app looks for what it wraps. -/
def App.cells : App → List CellId
  | .notFound => []
  | .leaf _ => []
  | .over _ inner => inner.cells
  | .resumed _ cell => [cell]
  | .mount _ branch next => branch.cells ++ next.cells
  | .choose _ branch next => branch.cells ++ next.cells
  | .delegate inner => inner.cells

/-- The footprint of an app: the cells in which it looks, and those in which the apps look that it
finds there. -/
inductive State.Reaches (s : State) (a : App) : CellId → Prop
  | own {c : CellId} (h : c ∈ a.cells) : Reaches s a c
  | held {c d : CellId} {b : App} (h : Reaches s a c) (hb : s.heldApp c = some b)
      (hd : d ∈ b.cells) : Reaches s a d

/-- A set of cells with the cells of an app, and of every app in a cell of the set, has its whole
footprint. -/
lemma State.Reaches.mem {s : State} {a : App} {P : Set CellId} (ha : ∀ c ∈ a.cells, c ∈ P)
    (hclosed : ∀ c ∈ P, ∀ b, s.heldApp c = some b → ∀ d ∈ b.cells, d ∈ P) {c : CellId}
    (h : s.Reaches a c) : c ∈ P := by
  induction h with
  | own h => exact ha _ h
  | held _ hb hd ih => exact hclosed _ ih _ hb _ hd

namespace App

/-- An app only asks for the behaviour of what is in its own cells. -/
lemma runWith_congr {held held' : CellId → Option (Environment → Environment)} {a : App}
    (h : ∀ c ∈ a.cells, held c = held' c) (e : Environment) :
    a.runWith held e = a.runWith held' e := by
  induction a generalizing e with
  | notFound => rfl
  | leaf l => rfl
  | «over» l inner ih =>
    have hinner : inner.runWith held = inner.runWith held' := funext fun e => ih h e
    rw [runWith, runWith, hinner]
  | resumed l cell => rw [runWith, runWith, h cell (List.mem_singleton_self cell)]
  | mount path branch next ihb ihn =>
    have hbranch : branch.runWith held = branch.runWith held' :=
      funext fun e => ihb (fun c hc => h c (List.mem_append_left _ hc)) e
    have hnext : next.runWith held = next.runWith held' :=
      funext fun e => ihn (fun c hc => h c (List.mem_append_right _ hc)) e
    rw [runWith, runWith, hbranch, hnext]
  | choose c branch next ihb ihn =>
    rw [runWith, runWith, ihb fun c hc => h c (List.mem_append_left _ hc),
      ihn fun c hc => h c (List.mem_append_right _ hc)]
  | delegate inner ih => exact ih h e

/-- States that hold the same apps in the footprint of an app run it in the same way. -/
lemma run_congr {s s' : State} {a : App} (h : ∀ c, s.Reaches a c → s'.heldApp c = s.heldApp c)
    (depth : Nat) (e : Environment) : a.run s'.heldApp depth e = a.run s.heldApp depth e := by
  have hrun : ∀ depth (b : App), (∀ c ∈ b.cells, s.Reaches a c) → ∀ e,
      b.run s'.heldApp depth e = b.run s.heldApp depth e := by
    intro depth
    induction depth with
    | zero => exact fun _ _ _ => rfl
    | succ depth ih =>
      refine fun b hb => runWith_congr fun c hc => ?_
      have hreach := hb c hc
      rw [h c hreach]
      cases hheld : s.heldApp c with
      | none => rfl
      | some d =>
        have hd : d.run s'.heldApp depth = d.run s.heldApp depth :=
          funext (ih d fun x hx => .held hreach hheld hx)
        rw [Option.map_some, Option.map_some, hd]
  exact hrun depth a (fun c hc => .own hc) e

end App

end Pipework
