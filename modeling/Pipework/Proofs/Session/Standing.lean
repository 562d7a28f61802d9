import Mathlib.Logic.Function.Basic
import Pipework.Proofs.Session.Calls

set_option autoImplicit false

/-!
# Where programs that run stand

A program that runs knows its builders by names, and works on copies of them that it puts back. In a
workshop builders stand at places, where they stay. This file says when the two agree, and what
keeps them in agreement.

## Main definitions

* `Step.Proper` — a step that works on no builder while that is worked on already.
* `Program.StandsAt` — a program that runs stands at a workshop.
* `Program.ComesFrom` — a program that runs has come about in work on one builder.

## Main results

* `Program.StandsAt.give`, `Program.StandsAt.hold` — the builder of a name.
* `Program.StandsAt.enter`, `Program.StandsAt.opened` — builders that come about.
-/

namespace Pipework.Session

variable {α β : Type}

/-! ## Running -/

/-- The result of a computation in a running program, and the program that it leaves. -/
def exec (x : Run α) (p : Program) : α × Program := x.run p

/-- The second part of a sequence goes on with the result and the program of the first one. -/
lemma exec_bind (x : Run α) (f : α → Run β) (p : Program) :
    exec (x >>= f) p = exec (f (exec x p).1) (exec x p).2 := rfl

/-- After a look at the program the sequence goes on with it. -/
lemma exec_get_bind (f : Program → Run β) (p : Program) :
    exec (get >>= f) p = exec (f p) p := rfl

/-- A computation on the state of the engine leaves the named builders alone. -/
lemma exec_assembly (x : Assembly α) (p : Program) :
    exec (assembly x) p = ((x.exec p.state).1, { p with state := (x.exec p.state).2 }) := rfl

/-- The program after a look at the call log. -/
def Program.logged (p : Program) : Program := { p with state := { p.state with calls := [] } }

namespace Configure

/-- The outcome of a computation that configures a branch, the reports on its steps and the program
that it leaves. -/
def exec (x : Configure α) (inner : List Report) (p : Program) :
    (Except BuildError α × List Report) × Program := (x.run.run inner).run p

/-- The same while a branch is configured, which keeps the reports. -/
lemma exec_lift (x : Assembly α) (inner : List Report) (p : Program) :
    exec (liftM x) inner p =
      (((x.exec p.state).1, inner), { p with state := (x.exec p.state).2 }) := rfl

/-- A sequence of two computations stops at the first failure. -/
lemma exec_bind (x : Configure α) (f : α → Configure β) (inner : List Report) (p : Program) :
    exec (x >>= f) inner p = match exec x inner p with
      | ((.ok a, inner'), p') => exec (f a) inner' p'
      | ((.error e, inner'), p') => ((.error e, inner'), p') := by
  change ((x.run >>= ExceptT.bindCont f).run inner).run p = _
  rw [StateT.run_bind, StateT.run_bind]
  unfold exec
  rcases (x.run.run inner).run p with ⟨⟨_ | _, inner'⟩, p'⟩ <;> rfl

/-- After a success the sequence goes on. -/
lemma exec_bind_ok {x : Configure α} {f : α → Configure β} {inner inner' : List Report}
    {p p' : Program} {a : α} (h : exec x inner p = ((.ok a, inner'), p')) :
    exec (x >>= f) inner p = exec (f a) inner' p' := by
  rw [exec_bind, h]

/-- After a failure the sequence stops. -/
lemma exec_bind_error {x : Configure α} {f : α → Configure β} {inner inner' : List Report}
    {p p' : Program} {e : BuildError} (h : exec x inner p = ((.error e, inner'), p')) :
    exec (x >>= f) inner p = ((.error e, inner'), p') := by
  rw [exec_bind, h]

end Configure

/-! ## Steps that keep apart -/

mutual

/-- While the builders of the names `held` are worked on, the step works on none of them, and the
same holds of the steps inside. -/
def Step.Proper (held : List String) : Step → Prop
  | .on name step => name ∉ held ∧ step.Proper (name :: held)
  | .map _ steps => StepsProper held steps
  | .mapWhen _ steps => StepsProper held steps
  | _ => True

/-- The same for steps one after the other. -/
def StepsProper (held : List String) : List Step → Prop
  | [] => True
  | step :: steps => step.Proper held ∧ StepsProper held steps

end

/-! ## Where programs stand -/

/-- The program stands at the workshop: it has the same state, and the builder of every name stands
at a place of its own. This is not said of the names `held`, whose builders are being worked on, and
none of the other names belongs to one of the places `work`, where that is going on. -/
structure Program.StandsAt (p : Program) (w : Workshop) (place : String → Option Nat)
    (held : List String) (work : List Nat) : Prop where
  state : p.state = w.state
  builders : ∀ name ∉ held, p.builders.get? name = (place name).map w.builder
  lt : ∀ name ∉ held, ∀ i, place name = some i → i < w.members.length
  inj : ∀ name ∉ held, ∀ name' ∉ held, ∀ i, place name = some i → place name' = some i →
    name = name'
  apart : ∀ name ∉ held, ∀ i ∈ work, place name ≠ some i
  work_lt : ∀ i ∈ work, i < w.members.length

namespace Program.StandsAt

variable {p : Program} {w : Workshop} {place : String → Option Nat} {held held' : List String}
  {work work' : List Nat} {i : Nat} {name : String}

/-- The builder that is worked on is there. -/
lemma lt_length (h : p.StandsAt w place held (i :: work)) : i < w.members.length :=
  h.work_lt i List.mem_cons_self

/-- Less may be said about names and places. -/
lemma mono (h : p.StandsAt w place held work) (hheld : held ⊆ held') (hwork : work' ⊆ work) :
    p.StandsAt w place held' work' where
  state := h.state
  builders name hn := h.builders name (mt (@hheld name) hn)
  lt name hn := h.lt name (mt (@hheld name) hn)
  inj name hn name' hn' := h.inj name (mt (@hheld name) hn) name' (mt (@hheld name') hn')
  apart name hn i hi := h.apart name (mt (@hheld name) hn) i (hwork hi)
  work_lt i hi := h.work_lt i (hwork hi)

/-- The program and the workshop get another state. -/
lemma withState (h : p.StandsAt w place held work) (s : State) :
    StandsAt { p with state := s } { w with state := s } place held work where
  state := rfl
  builders := h.builders
  lt := h.lt
  inj := h.inj
  apart := h.apart
  work_lt := h.work_lt

/-- A builder that is being worked on becomes another one. -/
lemma put (h : p.StandsAt w place held work) (hi : i ∈ work) (b : Builder) :
    p.StandsAt (w.put i b) place held work := by
  have hlength : (w.put i b).members.length = w.members.length := List.length_modify _ _ _
  refine ⟨h.state, fun name hn => ?_, fun name hn j hj => hlength ▸ h.lt name hn j hj, h.inj,
    h.apart, fun j hj => hlength ▸ h.work_lt j hj⟩
  rw [h.builders name hn]
  cases hplace : place name with
  | none => rfl
  | some j =>
    have hne : i ≠ j := fun heq => h.apart name hn i hi (heq ▸ hplace)
    rw [Option.map_some, Option.map_some, Workshop.builder, Workshop.builder,
      Workshop.getElem?_put_ne hne]

/-- Work begins on one more builder. -/
lemma enter (h : p.StandsAt w place held work) (m : Member) :
    p.StandsAt (w.enter m) place held (w.members.length :: work) := by
  have hlength := w.length_enter m
  refine ⟨h.state, fun name hn => ?_, fun name hn j hj => ?_, h.inj, fun name hn j hj => ?_,
    fun j hj => ?_⟩
  · rw [h.builders name hn]
    cases hplace : place name with
    | none => rfl
    | some j => rw [Option.map_some, Option.map_some,
        Workshop.builder_enter_lt m (h.lt name hn j hplace)]
  · exact hlength ▸ Nat.lt_succ_of_lt (h.lt name hn j hj)
  · obtain rfl | hj := List.mem_cons.1 hj
    · exact fun hplace => Nat.lt_irrefl _ (h.lt name hn _ hplace)
    · exact h.apart name hn j hj
  · rw [hlength]
    obtain rfl | hj := List.mem_cons.1 hj
    · exact Nat.lt_succ_self _
    · exact Nat.lt_succ_of_lt (h.work_lt j hj)

/-- A builder on which work ends gets a name, which may have been one of those whose builders were
being worked on. -/
lemma give (h : p.StandsAt w place held (i :: work)) (hi : i ∉ work) (name : String) :
    StandsAt { p with builders := p.builders.insert name (w.builder i) } w
      (Function.update place name (some i)) (held.filter fun n => n ≠ name) work := by
  have hold {n : String} (hn : n ∉ held.filter fun n => n ≠ name) (hne : n ≠ name) : n ∉ held :=
    fun hmem => hn (List.mem_filter.2 ⟨hmem, by simpa using hne⟩)
  have hnew {n : String} {j : Nat} (hne : n ≠ name)
      (hn : Function.update place name (some i) n = some j) : place n = some j := by
    rwa [Function.update_of_ne hne] at hn
  refine ⟨h.state, fun n hn => ?_, fun n hn j hj => ?_, fun n hn n' hn' j hj hj' => ?_,
    fun n hn j hj hplace => ?_, fun j hj => h.work_lt j (List.mem_cons_of_mem _ hj)⟩
  · rw [OrderedMap.get?_insert]
    obtain rfl | hne := eq_or_ne n name
    · rw [if_pos rfl, Function.update_self]
      rfl
    · rw [if_neg hne, Function.update_of_ne hne]
      exact h.builders n (hold hn hne)
  · obtain rfl | hne := eq_or_ne n name
    · rw [Function.update_self] at hj
      cases hj
      exact h.lt_length
    · exact h.lt n (hold hn hne) j (hnew hne hj)
  · obtain rfl | hne := eq_or_ne n name
    · obtain rfl | hne' := eq_or_ne n' n
      · rfl
      · rw [Function.update_self] at hj
        cases hj
        exact absurd (hnew hne' hj') (h.apart n' (hold hn' hne') i List.mem_cons_self)
    · obtain rfl | hne' := eq_or_ne n' name
      · rw [Function.update_self] at hj'
        cases hj'
        exact absurd (hnew hne hj) (h.apart n (hold hn hne) i List.mem_cons_self)
      · exact h.inj n (hold hn hne) n' (hold hn' hne') j (hnew hne hj) (hnew hne' hj')
  · obtain rfl | hne := eq_or_ne n name
    · rw [Function.update_self] at hplace
      cases hplace
      exact hi hj
    · exact h.apart n (hold hn hne) j (List.mem_cons_of_mem _ hj) (hnew hne hplace)

/-- Work begins on the builder of a name. -/
lemma hold (h : p.StandsAt w place held work) (hname : name ∉ held) (hi : place name = some i) :
    p.StandsAt w place (name :: held) (i :: work) where
  state := h.state
  builders n hn := h.builders n fun hmem => hn (List.mem_cons_of_mem _ hmem)
  lt n hn := h.lt n fun hmem => hn (List.mem_cons_of_mem _ hmem)
  inj n hn n' hn' := h.inj n (fun hmem => hn (List.mem_cons_of_mem _ hmem)) n'
    fun hmem => hn' (List.mem_cons_of_mem _ hmem)
  apart n hn j hj hplace := by
    have hn' : n ∉ held := fun hmem => hn (List.mem_cons_of_mem _ hmem)
    obtain rfl | hj := List.mem_cons.1 hj
    · exact hn (List.mem_cons.2 (.inl (h.inj n hn' name hname _ hplace hi)))
    · exact h.apart n hn' j hj hplace
  work_lt j hj := by
    obtain rfl | hj := List.mem_cons.1 hj
    · exact h.lt name hname _ hi
    · exact h.work_lt j hj

/-- Work begins on a new branch of a builder on which it goes on. -/
lemma opened (h : p.StandsAt w place held (i :: work)) :
    p.StandsAt (w.opened i) place held (w.members.length :: i :: work) ∧
      w.members.length ∉ i :: work :=
  ⟨h.enter _, fun hmem => Nat.lt_irrefl _ (h.work_lt _ hmem)⟩

/-- A builder that has just been made gets a name. -/
lemma enter_give (h : p.StandsAt w place held work) (m : Member) (name : String) :
    StandsAt { p with builders := p.builders.insert name m.builder } (w.enter m)
      (Function.update place name (some w.members.length)) (held.filter fun n => n ≠ name)
      work := by
  have hnew : w.members.length ∉ work := fun hmem => Nat.lt_irrefl _ (h.work_lt _ hmem)
  have hgive := (h.enter m).give hnew name
  rwa [Workshop.builder_enter_self] at hgive

end Program.StandsAt

/-- The program has come about while work was going on at place `i` of the workshop `w`, where the
builder `b` has come of it. No work was done at the places `busy`. -/
def Program.ComesFrom (p : Program) (b : Builder) (w : Workshop) (i : Nat) (busy : List Nat)
    (held : List String) : Prop :=
  ∃ l w' place, Course busy w l w' ∧ p.StandsAt w' place held (i :: busy) ∧ w'.builder i = b

namespace Program.ComesFrom

variable {p : Program} {b : Builder} {w w₁ : Workshop} {place : String → Option Nat} {i : Nat}
  {busy : List Nat} {held held' : List String}

/-- Where a program stands it has come about by doing nothing. -/
lemma of_standsAt (h : p.StandsAt w place held (i :: busy)) :
    p.ComesFrom (w.builder i) w i busy held := ⟨_, w, place, .start _ _, h, rfl⟩

/-- Less may be said about names. -/
lemma mono (h : p.ComesFrom b w i busy held) (hheld : held ⊆ held') :
    p.ComesFrom b w i busy held' := by
  obtain ⟨l, w', place, hcourse, hstands, hb⟩ := h
  exact ⟨l, w', place, hcourse, hstands.mono hheld (List.Subset.refl _), hb⟩

/-- Work that goes on where other work has stopped. -/
lemma after {l : List StageKind} (hcourse : Course busy w l w₁)
    (h : p.ComesFrom b w₁ i busy held) : p.ComesFrom b w i busy held := by
  obtain ⟨l', w', place, hcourse', hstands, hb⟩ := h
  exact ⟨_, w', place, hcourse.trans hcourse', hstands, hb⟩

/-- A look at the call log ends a step. -/
lemma logged (h : p.ComesFrom b w i busy held) : p.logged.ComesFrom b w i busy held := by
  obtain ⟨l, w', place, hcourse, hstands, hb⟩ := h
  refine ⟨_, _, place, .act hcourse (.call .takeCalls) nofun, ?_, hb⟩
  rw [Act.exec_call]
  have hlogged := hstands.withState { w'.state with calls := [] }
  rwa [Program.logged, hstands.state]

/-- Calls change no builder. -/
lemma of_calls {α : Type} {x : Assembly α}
    (h : p.StandsAt w place held (i :: busy)) (hx : Engine.ByCalls busy w.members x.run) :
    ComesFrom { p with state := (x.exec p.state).2 } (w.builder i) w i busy held := by
  have hcourse := hx w.state
  rw [h.state]
  exact ⟨_, _, place, hcourse, h.withState _, rfl⟩

end Program.ComesFrom

end Pipework.Session
