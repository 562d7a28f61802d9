import Mathlib.Tactic.Common
import Pipework.App.Basic

set_option autoImplicit false

/-!
# Layers that wrap an app

A layer that calls the app behind it on every request splits into what it does before the call and
what it does after it. Layers around layers then act like the shells of an onion: on the way in from
the outermost to the innermost, and on the way out in the opposite order.

## Main definitions

* `Action.Halt`, `Action.haltAll` — how far some steps come before they call the app behind.
* `Layer.IsWrapper` — a layer that calls the app behind it on every request.
* `Layer.enter`, `Layer.exit` — what a layer does before and after that call.
* `Layer.enters`, `Layer.exits` — the same for layers around one another.
* `Environment.marks` — how many marks apps have left.

## Main results

* `Action.runAll_eq_progress` — steps call the app behind where they halt, and nowhere else.
* `Layer.run_of_isWrapper` — a wrapper enters, calls the app behind once, and exits.
* `App.run_over`, `App.run_resumed` — the apps that a layer makes.
-/

namespace Pipework

namespace Action

/-! ## Steps without an app behind -/

mutual

/-- Without an app behind, a step does not count as its call. -/
lemma spent_run_none (p : Progress) : ∀ a : Action, (run none p a).spent = p.spent
  | .edit _ => rfl
  | .next => rfl
  | .branch c yes no => by
    unfold run
    split
    · exact spent_runAll_none p yes
    · exact spent_runAll_none p no

/-- Without an app behind, steps one after the other do not count as its call either. -/
lemma spent_runAll_none (p : Progress) : ∀ as : List Action, (runAll none p as).spent = p.spent
  | [] => rfl
  | a :: as => (spent_runAll_none (run none p a) as).trans (spent_run_none p a)

end

mutual

/-- Without an app behind, it does not matter whether that app has been called. -/
lemma env_run_none (e : Environment) (b : Bool) :
    ∀ a : Action, (run none ⟨e, b⟩ a).env = (run none ⟨e, false⟩ a).env
  | .edit _ => rfl
  | .next => rfl
  | .branch c yes no => by
    unfold run
    split
    · exact env_runAll_none e b yes
    · exact env_runAll_none e b no

/-- Without an app behind, steps one after the other do what is performed without it. -/
lemma env_runAll_none (e : Environment) (b : Bool) :
    ∀ as : List Action, (runAll none ⟨e, b⟩ as).env = perform none as e
  | [] => rfl
  | a :: as => by
    have h : ∀ b, run none ⟨e, b⟩ a = ⟨(run none ⟨e, false⟩ a).env, b⟩ := fun b =>
      congrArg₂ Progress.mk (env_run_none e b a) (spent_run_none ⟨e, b⟩ a)
    unfold perform runAll
    rw [h b, h false, env_runAll_none _ b as, env_runAll_none _ false as]

end

mutual

/-- After its call the app behind has no influence any more. -/
lemma run_of_spent (next : Option (Environment → Environment)) (e : Environment) :
    ∀ a : Action, run next ⟨e, true⟩ a = run none ⟨e, true⟩ a
  | .edit _ => rfl
  | .next => by cases next <;> rfl
  | .branch c yes no => by
    unfold run
    split
    · exact runAll_of_spent next e yes
    · exact runAll_of_spent next e no

/-- Steps one after the other do not reach an app behind that has been called before. -/
lemma runAll_of_spent (next : Option (Environment → Environment)) (e : Environment) :
    ∀ as : List Action, runAll next ⟨e, true⟩ as = runAll none ⟨e, true⟩ as
  | [] => rfl
  | a :: as => by
    unfold runAll
    rw [run_of_spent next e a]
    have hspent := spent_run_none ⟨e, true⟩ a
    generalize run none ⟨e, true⟩ a = p at hspent
    obtain ⟨e', b⟩ := p
    cases hspent
    exact runAll_of_spent next e' as

end

/-! ## The call of the app behind -/

/-- How far some steps come before they call the app behind. -/
inductive Halt where
  /-- They are done without a call. -/
  | done (e : Environment)
  /-- They call the app behind on `e`, and do `rest` with what it hands back. -/
  | call (e : Environment) (rest : Environment → Environment)

/-- The progress of steps that have halted, with the app `f` behind. -/
def Halt.progress (f : Environment → Environment) : Halt → Progress
  | .done e => ⟨e, false⟩
  | .call e rest => ⟨rest (f e), true⟩

mutual

/-- Where one step halts. -/
def halt (e : Environment) : Action → Halt
  | .edit x => .done (x.apply e)
  | .next => .call e id
  | .branch c yes no => if c.holds e then haltAll e yes else haltAll e no

/-- Where the steps of a list halt. What comes after the call is done with no app behind. -/
def haltAll (e : Environment) : List Action → Halt
  | [] => .done e
  | a :: as =>
    match halt e a with
    | .done e => haltAll e as
    | .call e rest => .call e fun x => perform none as (rest x)

end

mutual

/-- A step calls the app behind where it halts, and nowhere else. -/
lemma run_eq_progress (f : Environment → Environment) (e : Environment) :
    ∀ a : Action, run (some f) ⟨e, false⟩ a = (halt e a).progress f
  | .edit _ => rfl
  | .next => rfl
  | .branch c yes no => by
    unfold run halt
    split
    · exact runAll_eq_progress f e yes
    · exact runAll_eq_progress f e no

/-- Steps that start before the call of the app behind go on from where they halt for it. -/
lemma runAll_eq_progress (f : Environment → Environment) (e : Environment) :
    ∀ as : List Action, runAll (some f) ⟨e, false⟩ as = (haltAll e as).progress f
  | [] => rfl
  | a :: as => by
    unfold runAll haltAll
    rw [run_eq_progress f e a]
    cases halt e a with
    | done e' => exact runAll_eq_progress f e' as
    | call e' rest =>
      have henv := env_runAll_none (rest (f e')) true as
      have hspent := spent_runAll_none ⟨rest (f e'), true⟩ as
      exact (runAll_of_spent (some f) _ as).trans (congrArg₂ Progress.mk henv hspent)

end

/-- Steps among which there is a call do not end without one. -/
lemma haltAll_of_mem {acts : List Action} (h : .next ∈ acts) (e : Environment) :
    ∃ e' rest, haltAll e acts = .call e' rest := by
  induction acts generalizing e with
  | nil => cases h
  | cons a acts ih =>
    unfold haltAll
    cases ha : halt e a with
    | done e' =>
      obtain rfl | h := List.mem_cons.1 h
      · cases ha
      · exact ih h e'
    | call e' rest => exact ⟨e', _, rfl⟩

end Action

/-! ## Marks -/

namespace Environment

/-- The number of marks that apps have left. -/
def marks (e : Environment) : Nat := (e.responseHeaders.values traceHeader).length

/-- Leaving a mark leaves one more. -/
lemma marks_mark (e : Environment) (s : String) : (e.mark s).marks = e.marks + 1 := by
  unfold marks mark
  rw [Headers.values_append, if_pos rfl, List.length_append, List.length_singleton]

end Environment

/-! ## Layers -/

namespace Layer

/-- A layer calls the app behind it on every request: it has no actions of its own, or its actions
come to a call. -/
def IsWrapper (l : Layer) : Prop :=
  ∀ acts, l.acts = some acts → ∀ e, ∃ e' rest, Action.haltAll e acts = .call e' rest

/-- What a layer does before it calls the app behind. -/
def enter (l : Layer) (e : Environment) : Environment :=
  match l.acts with
  | none => e.mark ("+" ++ l.trace)
  | some acts =>
    match Action.haltAll e acts with
    | .done e => e
    | .call e _ => e

/-- What a layer that was entered on `e` does with what the app behind hands back. -/
def exit (l : Layer) (e out : Environment) : Environment :=
  match l.acts with
  | none => out.mark ("-" ++ l.trace)
  | some acts =>
    match Action.haltAll e acts with
    | .done _ => out
    | .call _ rest => rest out

/-- A wrapper enters, calls the app behind once, and exits. -/
theorem run_of_isWrapper {l : Layer} (h : l.IsWrapper) (next : Environment → Environment)
    (e : Environment) : l.run (some next) e = l.exit e (next (l.enter e)) := by
  unfold run enter exit
  cases hacts : l.acts with
  | none => rfl
  | some acts =>
    obtain ⟨e', rest, hcall⟩ := h acts hacts e
    simp only [hcall, Action.perform, Action.runAll_eq_progress, Action.Halt.progress]

/-- A layer without actions of its own calls the app behind it. -/
lemma isWrapper_of_none {l : Layer} (h : l.acts = none) : l.IsWrapper := by
  intro acts hacts
  cases h.symm.trans hacts

/-- So does a layer with a call among its actions. -/
lemma isWrapper_of_mem {l : Layer} {acts : List Action} (h : l.acts = some acts)
    (hmem : .next ∈ acts) : l.IsWrapper := by
  intro acts' hacts
  cases h.symm.trans hacts
  exact Action.haltAll_of_mem hmem

/-- What layers do on the way in, the outermost one first. -/
def enters : List Layer → Environment → Environment
  | [], e => e
  | l :: layers, e => enters layers (l.enter e)

/-- What layers that were entered on `e` do on the way out, the innermost one first. -/
def exits : List Layer → (e out : Environment) → Environment
  | [], _, out => out
  | l :: layers, e, out => l.exit e (exits layers (l.enter e) out)

/-- Layers without actions leave one mark each on the way in. -/
lemma marks_enters {layers : List Layer} (h : ∀ l ∈ layers, l.acts = none) (e : Environment) :
    (enters layers e).marks = e.marks + layers.length := by
  induction layers generalizing e with
  | nil => rfl
  | cons l layers ih =>
    obtain ⟨hl, hlayers⟩ := List.forall_mem_cons.1 h
    rw [enters, ih hlayers, enter, hl, Environment.marks_mark, List.length_cons]
    omega

/-- They leave one mark each on the way out. -/
lemma marks_exits {layers : List Layer} (h : ∀ l ∈ layers, l.acts = none) (e out : Environment) :
    (exits layers e out).marks = out.marks + layers.length := by
  induction layers generalizing e with
  | nil => rfl
  | cons l layers ih =>
    obtain ⟨hl, hlayers⟩ := List.forall_mem_cons.1 h
    rw [exits, exit, hl, Environment.marks_mark, ih hlayers, List.length_cons, Nat.add_assoc]

end Layer

namespace App

/-- The app at the end of a pipeline without any other. -/
lemma run_notFound (held : CellId → Option App) (depth : Nat) (e : Environment) :
    run held depth .notFound e = { e with status := 404 } := by
  cases depth <;> rfl

/-- A layer around an app. -/
lemma run_over (held : CellId → Option App) (depth : Nat) (l : Layer) (a : App) (e : Environment) :
    run held depth (.over l a) e = l.run (some (run held depth a)) e := by
  cases depth <;> rfl

/-- A layer around what a component holds. -/
lemma run_resumed (held : CellId → Option App) (depth : Nat) (l : Layer) (c : CellId)
    (e : Environment) :
    run held (depth + 1) (.resumed l c) e = l.run ((held c).map (run held depth)) e := rfl

end App

end Pipework
