import Mathlib.Data.List.Infix
import Mathlib.Tactic.Common
import Pipework.App.Basic

set_option autoImplicit false

/-!
# Routing

A mount takes the requests that match it away from the app behind it and passes all others on as
they are. Of several mounts in front of one another the first one that matches gets a request. To
say which apps a request enters on its way, an app is also run with a log.

## Main definitions

* `Mount`, `Mount.chain` — a branch with what it takes requests by, and mounts in front of an app.
* `App.runLogged` — running an app, with the apps that a request enters on the way.

## Main results

* `App.fst_runLogged` — the log changes nothing.
* `Mount.runLogged_chain_append` — mounts that do not match pass a request on as it is.
* `Mount.runLogged_chain` — the first mount that matches gets the request.
-/

namespace Pipework

/-- A branch that takes requests away from the app behind it: those under a path, or those that meet
a test. -/
inductive Mount where
  | path (path : String) (branch : App)
  | test (c : Cond) (branch : App)

namespace Mount

/-- A mount in front of an app. -/
def wrap : Mount → App → App
  | path p branch, next => .mount p branch next
  | test c branch, next => .choose c branch next

/-- Mounts in front of one another and of an app. -/
def chain (ms : List Mount) (last : App) : App := ms.foldr wrap last

/-- Whether a request is for the branch. -/
def isFor : Mount → Environment → Bool
  | path p _, e => (Route.remainder? p e.path).isSome
  | test c _, e => c.holds e

end Mount

/-! ## Running with a log -/

namespace App

/-- Runs an app and tells which apps are entered on the way, each with the environment that it is
entered with. What a layer does with the app behind it is not told. -/
def runLogged (held : CellId → Option (Environment → Environment)) :
    App → Environment → Environment × List (App × Environment)
  | .mount path branch next, e =>
    match Route.remainder? path e.path with
    | some rest =>
      let inside := { e with pathBase := e.pathBase ++ path, path := rest }
      let (out, log) := runLogged held branch inside
      ({ out with pathBase := e.pathBase, path := e.path }, (branch, inside) :: log)
    | none =>
      let (out, log) := runLogged held next e
      (out, (next, e) :: log)
  | .choose c branch next, e =>
    if c.holds e then
      let (out, log) := runLogged held branch e
      (out, (branch, e) :: log)
    else
      let (out, log) := runLogged held next e
      (out, (next, e) :: log)
  | .delegate inner, e =>
    let (out, log) := runLogged held inner e
    (out, (inner, e) :: log)
  | .notFound, e => (runWith held .notFound e, [])
  | .leaf l, e => (runWith held (.leaf l) e, [])
  | .over l inner, e => (runWith held (.over l inner) e, [])
  | .resumed l cell, e => (runWith held (.resumed l cell) e, [])

/-- Telling what is entered does not change what an app does. -/
lemma fst_runLogged (held : CellId → Option (Environment → Environment)) (a : App)
    (e : Environment) : (a.runLogged held e).1 = a.runWith held e := by
  induction a generalizing e with
  | mount path branch next ihb ihn =>
    unfold runLogged runWith
    cases Route.remainder? path e.path with
    | some rest => simp only [runMounted, ihb]
    | none => exact ihn e
  | choose c branch next ihb ihn =>
    unfold runLogged runWith
    split
    · exact ihb e
    · exact ihn e
  | delegate inner ih => exact ih e
  | _ => rfl

/-- A request under the path of a mount enters the branch with the path that remains. -/
lemma runLogged_mount (held : CellId → Option (Environment → Environment)) {path rest : String}
    (branch next : App) {e : Environment} (h : Route.remainder? path e.path = some rest) :
    (mount path branch next).runLogged held e =
      let inside := { e with pathBase := e.pathBase ++ path, path := rest }
      ({ (branch.runLogged held inside).1 with pathBase := e.pathBase, path := e.path },
        (branch, inside) :: (branch.runLogged held inside).2) := by
  simp only [runLogged, h]

/-- A request that meets the test enters the branch as it is. -/
lemma runLogged_choose (held : CellId → Option (Environment → Environment)) {c : Cond}
    (branch next : App) {e : Environment} (h : c.holds e = true) :
    (choose c branch next).runLogged held e =
      ((branch.runLogged held e).1, (branch, e) :: (branch.runLogged held e).2) := by
  simp only [runLogged, h, if_true]

/-- What holds of runs with a log holds of runs without one. -/
lemma run_of_runLogged {a x : App} {e e' : Environment} (f : Environment → Environment)
    (h : ∀ held, (a.runLogged held e).1 = f (x.runLogged held e').1)
    (held : CellId → Option App) (depth : Nat) : a.run held depth e = f (x.run held depth e') := by
  simp only [fst_runLogged] at h
  cases depth with
  | zero => exact h _
  | succ depth => exact h _

end App

/-! ## The way of a request -/

namespace Mount

variable (held : CellId → Option (Environment → Environment)) {passed : List Mount}
  (rest : List Mount) (last : App) {e : Environment}

/-- Mounts that do not match pass a request on as it is: it enters what is behind each of them. -/
lemma runLogged_chain_append (h : ∀ m ∈ passed, m.isFor e = false) :
    (chain (passed ++ rest) last).runLogged held e =
      (((chain rest last).runLogged held e).1,
        passed.tails.tail.map (fun t => (chain (t ++ rest) last, e)) ++
          ((chain rest last).runLogged held e).2) := by
  induction passed with
  | nil => rfl
  | cons m ms ih =>
    have hm : m.isFor e = false := h m List.mem_cons_self
    have ih := ih fun x hx => h x (List.mem_cons_of_mem _ hx)
    have hstep : (chain (m :: ms ++ rest) last).runLogged held e =
        (((chain (ms ++ rest) last).runLogged held e).1,
          (chain (ms ++ rest) last, e) :: ((chain (ms ++ rest) last).runLogged held e).2) := by
      cases m with
      | path p branch =>
        have hp : Route.remainder? p e.path = none := by simpa [isFor] using hm
        simp only [chain, List.cons_append, List.foldr_cons, wrap, App.runLogged, hp]
      | test c branch =>
        have hc : c.holds e = false := hm
        simp [chain, wrap, App.runLogged, hc]
    have htails : ms.tails = ms :: ms.tails.tail := by cases ms <;> rfl
    rw [hstep, ih, List.tails_cons, List.tail_cons, htails]
    rfl

/-- The first mount that matches, if there is one. -/
lemma exists_first (ms : List Mount) (e : Environment) :
    ∃ passed rest, ms = passed ++ rest ∧ (∀ m ∈ passed, m.isFor e = false) ∧
      (rest = [] ∨ ∃ m post, rest = m :: post ∧ m.isFor e = true) := by
  induction ms with
  | nil => exact ⟨[], [], rfl, nofun, .inl rfl⟩
  | cons m ms ih =>
    cases hm : m.isFor e with
    | true => exact ⟨[], m :: ms, rfl, nofun, .inr ⟨m, ms, rfl, hm⟩⟩
    | false =>
      obtain ⟨passed, rest, rfl, hpassed, hrest⟩ := ih
      exact ⟨m :: passed, rest, rfl, List.forall_mem_cons.2 ⟨hm, hpassed⟩, hrest⟩

/-- An app serves a request like mounts in front of an app `last`. The mounts before the first one
that matches pass the request on as it is. A branch under a path gets the request with the path that
remains and the mount added to the path base; what it hands back gets the path and the path base of
the request again, whatever the branch has made of them. A branch for a test gets the request as it
is. Without a mount that matches, `last` gets it. Besides what is behind the mounts that are passed
and the app that gets the request, only what that app enters is entered. -/
def Routes (a : App) (ms : List Mount) (last : App) (e : Environment) : Prop :=
  ∃ passed rest, ms = passed ++ rest ∧ (∀ m ∈ passed, m.isFor e = false) ∧
    let behind := passed.tails.tail.map fun t => (chain (t ++ rest) last, e)
    match rest with
    | [] =>
      (∀ held depth, a.run held depth e = last.run held depth e) ∧
        ∀ held, (a.runLogged held e).2 = behind ++ (last.runLogged held e).2
    | .path p branch :: _ =>
      ∃ remaining, Route.remainder? p e.path = some remaining ∧
        let inside := { e with pathBase := e.pathBase ++ p, path := remaining }
        (∀ held depth, a.run held depth e =
          { branch.run held depth inside with pathBase := e.pathBase, path := e.path }) ∧
        ∀ held, (a.runLogged held e).2 =
          behind ++ (branch, inside) :: (branch.runLogged held inside).2
    | .test c branch :: _ =>
      c.holds e = true ∧ (∀ held depth, a.run held depth e = branch.run held depth e) ∧
        ∀ held, (a.runLogged held e).2 = behind ++ (branch, e) :: (branch.runLogged held e).2

/-- The first mount that matches gets the request. -/
theorem routes_chain (ms : List Mount) (last : App) (e : Environment) :
    Routes (chain ms last) ms last e := by
  obtain ⟨passed, rest, rfl, hpassed, hrest⟩ := exists_first ms e
  have hlogged := fun held => runLogged_chain_append held rest last hpassed
  refine ⟨passed, rest, rfl, hpassed, ?_⟩
  obtain rfl | ⟨m, post, rfl, hm⟩ := hrest
  · refine ⟨App.run_of_runLogged id fun held => ?_, fun held => ?_⟩
    · rw [hlogged]
      rfl
    · rw [hlogged]
      rfl
  · cases m with
    | path p branch =>
      obtain ⟨remaining, hp⟩ := Option.isSome_iff_exists.1 hm
      have hfirst held : (chain (.path p branch :: post) last).runLogged held e = _ :=
        App.runLogged_mount held branch (chain post last) hp
      let restore := fun out : Environment => { out with pathBase := e.pathBase, path := e.path }
      refine ⟨remaining, hp, App.run_of_runLogged restore fun held => ?_, fun held => ?_⟩
      · rw [hlogged, hfirst]
      · rw [hlogged, hfirst]
    | test c branch =>
      have hfirst held : (chain (.test c branch :: post) last).runLogged held e = _ :=
        App.runLogged_choose held branch (chain post last) hm
      refine ⟨hm, App.run_of_runLogged id fun held => ?_, fun held => ?_⟩
      · rw [hlogged, hfirst]
        rfl
      · rw [hlogged, hfirst]

end Mount

end Pipework
