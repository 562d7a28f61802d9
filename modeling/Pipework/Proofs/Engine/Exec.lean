import Mathlib.Tactic.Common
import Pipework.Builder

set_option autoImplicit false

/-!
# Running computations

A computation of the engine is a function of the state. This file gives that function a name and
says how it passes through the operations of the two monads, so that later proofs speak of outcomes
and states and never of monad transformers.

## Main definitions

* `Engine.exec`, `Assembly.exec` — the outcome of a computation and the state that it leaves.
* `Assembly.Yields` — a computation that succeeds from every state.

## Main results

* `Assembly.exec_bind` — a sequence of two computations stops at the first failure.
* `Assembly.Yields.bind_congr` — continuations that agree on what a computation can yield can be
  exchanged for one another.
-/

namespace Pipework

variable {α β : Type}

namespace Engine

/-- The result of a computation and the state that it leaves. -/
def exec (x : Engine α) (s : State) : α × State := x.run s

/-- A result changes nothing. -/
@[simp] lemma exec_pure (a : α) (s : State) : exec (pure a) s = (a, s) := rfl

/-- The second part of a sequence goes on with the result and the state of the first one. -/
@[simp] lemma exec_bind (x : Engine α) (f : α → Engine β) (s : State) :
    exec (x >>= f) s = exec (f (exec x s).1) (exec x s).2 := rfl

/-- Looking at the state gives it and changes nothing. -/
@[simp] lemma exec_get (s : State) : exec get s = (s, s) := rfl

/-- A change changes the state. -/
@[simp] lemma exec_modify (g : State → State) (s : State) :
    exec (modify g) s = ((), g s) := rfl

/-- A change with a result gives the result. -/
@[simp] lemma exec_modifyGet (g : State → α × State) (s : State) :
    exec (modifyGet g) s = g s := rfl

/-- Leaving out the result leaves the state. -/
@[simp] lemma exec_discard (x : Engine α) (s : State) :
    exec (discard x) s = ((), (exec x s).2) := rfl

/-- A line goes to the end of the call log. -/
@[simp] lemma exec_logCall (line : String) (s : State) :
    exec (logCall line) s = ((), { s with calls := s.calls ++ [line] }) := rfl

/-- An event goes to the end of what has been reported. -/
@[simp] lemma exec_report (e : Event) (s : State) :
    exec (report e) s = ((), { s with events := s.events ++ [e] }) := rfl

/-- A counter is raised. -/
@[simp] lemma exec_raise (c : Counter) (n : Nat) (s : State) :
    exec (raise c n) s = ((), { s with tally := s.tally.raise c n }) := rfl

/-- A new cell comes behind those that are there. -/
@[simp] lemma exec_newCell (entries : List Held) (s : State) :
    exec (newCell entries) s = (s.cells.length, { s with cells := s.cells ++ [entries] }) := rfl

/-- A cell that is set gets new entries, and its component has been told something. -/
@[simp] lemma exec_setCell (c : CellId) (entries : List Held) (s : State) :
    exec (setCell c entries) s =
      ((), { s with cells := s.cells.set c entries, told := s.told ++ [c] }) := rfl

end Engine

namespace Assembly

/-- The outcome of a computation that may fail, and the state that it leaves. -/
def exec (x : Assembly α) (s : State) : Except BuildError α × State := Engine.exec x.run s

/-- Computations that do the same from every state are equal. -/
lemma ext {x y : Assembly α} (h : ∀ s, exec x s = exec y s) : x = y := funext h

/-- A success changes nothing. -/
@[simp] lemma exec_pure (a : α) (s : State) : exec (pure a) s = (.ok a, s) := rfl

/-- A failure changes nothing. -/
@[simp] lemma exec_throw (e : BuildError) (s : State) :
    exec (throw e : Assembly α) s = (.error e, s) := rfl

/-- Looking at the state succeeds and changes nothing. -/
@[simp] lemma exec_get (s : State) : exec get s = (.ok s, s) := rfl

/-- An outcome that is known changes nothing. -/
@[simp] lemma exec_ofExcept (x : Except BuildError α) (s : State) :
    exec (ofExcept x) s = (x, s) := rfl

/-- What cannot fail succeeds. -/
@[simp] lemma exec_lift (x : Engine α) (s : State) :
    exec (liftM x) s = (.ok (Engine.exec x s).1, (Engine.exec x s).2) := rfl

/-- A sequence of two computations stops at the first failure. -/
lemma exec_bind (x : Assembly α) (f : α → Assembly β) (s : State) :
    exec (x >>= f) s = match exec x s with
      | (.ok a, s') => exec (f a) s'
      | (.error e, s') => (.error e, s') := by
  change Engine.exec (x.run >>= ExceptT.bindCont f) s = _
  rw [Engine.exec_bind]
  unfold exec
  rcases Engine.exec x.run s with ⟨_ | _, s'⟩ <;> rfl

/-- After a success the second computation goes on where the first one stopped. -/
lemma exec_bind_ok {x : Assembly α} {f : α → Assembly β} {s s' : State} {a : α}
    (h : exec x s = (.ok a, s')) : exec (x >>= f) s = exec (f a) s' := by
  rw [exec_bind, h]

/-- After a failure nothing else happens. -/
lemma exec_bind_error {x : Assembly α} {f : α → Assembly β} {s s' : State} {e : BuildError}
    (h : exec x s = (.error e, s')) : exec (x >>= f) s = (.error e, s') := by
  rw [exec_bind, h]

/-- A sequence that succeeds does so in both parts. -/
lemma exists_of_exec_bind {x : Assembly α} {f : α → Assembly β} {s s' : State} {b : β}
    (h : exec (x >>= f) s = (.ok b, s')) :
    ∃ a s₁, exec x s = (.ok a, s₁) ∧ exec (f a) s₁ = (.ok b, s') := by
  rw [exec_bind] at h
  split at h
  · next a s₁ hx => exact ⟨a, s₁, hx, h⟩
  · cases h

/-- After what cannot fail the sequence goes on. -/
@[simp] lemma exec_lift_bind (x : Engine α) (f : α → Assembly β) (s : State) :
    exec (liftM x >>= f) s = exec (f (Engine.exec x s).1) (Engine.exec x s).2 :=
  exec_bind_ok (exec_lift x s)

/-- After looking at the state the sequence goes on with it. -/
@[simp] lemma exec_get_bind (f : State → Assembly β) (s : State) :
    exec (get >>= f) s = exec (f s) s :=
  exec_bind_ok (exec_get s)

/-- Leaving out the result leaves the state, and the failure if there is one. -/
@[simp] lemma exec_discard (x : Assembly α) (s : State) :
    exec (discard x) s = ((exec x s).1.map fun _ => (), (exec x s).2) := by
  change exec (x >>= fun _ => pure ()) s = _
  rw [exec_bind]
  rcases exec x s with ⟨_ | _, s'⟩ <;> rfl

/-- A result that is thrown away. -/
lemma discard_bind (x : Assembly α) (f : PUnit → Assembly β) :
    (discard x >>= f) = x >>= fun _ => f ⟨⟩ := by
  refine ext fun s => ?_
  rw [exec_bind, exec_bind, exec_discard]
  rcases exec x s with ⟨_ | _, s'⟩ <;> rfl

/-- A computation that succeeds from every state, with a result for which `P` holds. -/
def Yields (x : Assembly α) (P : α → Prop) : Prop :=
  ∀ s, ∃ a s', exec x s = (.ok a, s') ∧ P a

namespace Yields

variable {P : α → Prop} {Q : β → Prop}

/-- A success yields its result. -/
lemma pure {a : α} (h : P a) : Yields (Pure.pure a) P := fun s => ⟨a, s, rfl, h⟩

/-- Less may be said about what is yielded. -/
lemma mono {x : Assembly α} {P' : α → Prop} (h : Yields x P) (hP : ∀ a, P a → P' a) :
    Yields x P' := by
  intro s
  obtain ⟨a, s', hx, ha⟩ := h s
  exact ⟨a, s', hx, hP a ha⟩

/-- A sequence yields what its second part yields from what the first one yields. -/
lemma bind {x : Assembly α} {f : α → Assembly β} (h : Yields x P)
    (hf : ∀ a, P a → Yields (f a) Q) : Yields (x >>= f) Q := by
  intro s
  obtain ⟨a, s', hx, ha⟩ := h s
  obtain ⟨b, s'', hb, hQ⟩ := hf a ha s'
  exact ⟨b, s'', (exec_bind_ok hx).trans hb, hQ⟩

/-- Continuations that agree on everything that a computation can yield can be exchanged for one
another. -/
lemma bind_congr {x : Assembly α} {f g : α → Assembly β} (h : Yields x P)
    (hfg : ∀ a, P a → f a = g a) : x >>= f = x >>= g := by
  refine ext fun s => ?_
  obtain ⟨a, s', hx, ha⟩ := h s
  rw [exec_bind_ok hx, exec_bind_ok hx, hfg a ha]

end Yields

end Assembly

/-! ## Adding stages -/

namespace Builder

variable {v : Value} {args : Args}

/-- The stage that a value describes is added and reported. -/
lemma exec_useStage_ok (b : Builder) {st : Stage} (h : Stage.resolve v args = .ok st) (s : State) :
    (b.useStage v args).exec s = (.ok { b with stages := b.stages ++ [st] }, { s with
      events := s.events ++ [.stageAdded b.stages.length st.kind st.convention st.description]
      tally := s.tally.raise (.stage st.kind) 1 }) := by
  rw [useStage, h, Assembly.exec_bind_ok (Assembly.exec_ofExcept _ s), Assembly.exec_lift_bind,
    Assembly.exec_lift_bind]
  rfl

/-- A value that describes no stage changes nothing. -/
lemma exec_useStage_error (b : Builder) {e : BuildError} (h : Stage.resolve v args = .error e)
    (s : State) : (b.useStage v args).exec s = (.error e, s) := by
  rw [useStage, h, Assembly.exec_bind_error (Assembly.exec_ofExcept _ s)]

end Builder

end Pipework
