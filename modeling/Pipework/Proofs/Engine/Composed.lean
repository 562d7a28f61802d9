import Mathlib.Data.Set.Basic
import Pipework.Proofs.Engine.Registers

set_option autoImplicit false

/-!
# What computations are composed of

Whatever is evaluated, called, converted or applied, it is a composition of a few operations: it
writes to the call log, registers conversions, stores properties, makes components and makes the
arguments of an operation the state of its component. It looks at variables, components and
registries on the way, but never at a property bag. Everything that holds of the operations and
passes through their composition holds of all computations.

## Main definitions

* `State.core` — a state without its property bags.
* `Engine.Composed`, `Assembly.Composed` — the computations that are composed of the operations and
  change the cells in a set at most.
* `Routine.touches`, `Factory.touches` — the cell that a call of a routine, or a stage, changes.

## Main results

* `Content.composed_render`, `Value.composed_render` — showing a value.
* `Routine.composed_run`, `composed_convert`, `Stage.composed_apply` — calls, conversions and
  stages.
-/

namespace Pipework

/-! ## Compositions -/

/-- A state without its property bags. -/
def State.core (s : State) : State := { s with bags := [] }

namespace State

variable {s s' : State}

/-- The cells do not depend on the property bags. -/
lemma cells_eq_of_core (h : s.core = s'.core) : s.cells = s'.cells := (congrArg State.cells h :)

/-- The variables do not depend on the property bags. -/
lemma vars_eq_of_core (h : s.core = s'.core) : s.vars = s'.vars := (congrArg State.vars h :)

/-- The number function in a cell does not depend on the property bags. -/
lemma heldNum_eq_of_core (h : s.core = s'.core) (c : CellId) : s.heldNum c = s'.heldNum c := by
  rw [heldNum, heldNum, cell, cell, cells_eq_of_core h]

/-- The text of a cell does not depend on the property bags. -/
lemma cellText_eq_of_core (h : s.core = s'.core) (c : CellId) : s.cellText c = s'.cellText c := by
  rw [cellText, cellText, cell, cell, cells_eq_of_core h]

/-- The registries do not depend on the property bags. -/
lemma registry_eq_of_core (h : s.core = s'.core) (r : RegistryId) :
    s.registry r = s'.registry r := congrArg (·.registry r) h

end State

/-- A computation that is composed of operations of the engine, and changes no cells besides those
in `touched`. What it does depends on no property bag. -/
inductive Engine.Composed (touched : Set CellId) : {α : Type} → Engine α → Prop
  | pure {α : Type} (a : α) : Composed touched (Pure.pure a : Engine α)
  | bind {α β : Type} {x : Engine α} {f : α → Engine β} (hx : Composed touched x)
      (hf : ∀ a, Composed touched (f a)) : Composed touched (x >>= f)
  | observe {α : Type} {f : State → Engine α} (hf : ∀ s s', s.core = s'.core → f s = f s')
      (h : ∀ s, Composed touched (f s)) : Composed touched (get >>= f)
  | logCall (line : String) : Composed touched (Engine.logCall line)
  | raise (c : Counter) (n : Nat) : Composed touched (Engine.raise c n)
  | report (e : Event) (he : e.isRegistration = false := by rfl) :
      Composed touched (Engine.report e)
  | newCell (entries : List Held) : Composed touched (Engine.newCell entries)
  | setCell {c : CellId} (hc : c ∈ touched) (entries : List Held) :
      Composed touched (Engine.setCell c entries)
  | setProperty (p : BagId) (key : String) (v : Value) :
      Composed touched (discard (Engine.setProperty p key v))
  | addConversion (r : RegistryId) {c : Conversion} (hc : ∃ v, Conversion.ofValue v = .ok c) :
      Composed touched (Engine.addConversion r c)

/-- The same for a computation that may fail. -/
def Assembly.Composed (touched : Set CellId) {α : Type} (x : Assembly α) : Prop :=
  Engine.Composed touched x.run

variable {α β : Type} {touched touched' : Set CellId}

namespace Engine.Composed

/-- A computation may be said to change more cells than it does. -/
lemma mono {x : Engine α} (h : x.Composed touched) (hsub : touched ⊆ touched') :
    x.Composed touched' := by
  induction h with
  | pure a => exact .pure a
  | bind _ _ ihx ihf => exact .bind ihx ihf
  | observe hf _ ih => exact .observe hf ih
  | logCall line => exact .logCall line
  | raise c n => exact .raise c n
  | report e he => exact .report e he
  | newCell entries => exact .newCell entries
  | setCell hc entries => exact .setCell (hsub hc) entries
  | setProperty p key v => exact .setProperty p key v
  | addConversion r hc => exact .addConversion r hc

/-- Steps one after the other, without results. -/
lemma forM {f : α → Engine PUnit} (l : List α) (h : ∀ a, (f a).Composed touched) :
    Engine.Composed touched (l.forM f) := by
  induction l with
  | nil => exact .pure _
  | cons a l ih => exact .bind (h a) fun _ => ih

/-- Steps one after the other, with a list of their results. -/
lemma mapM {f : α → Engine β} (l : List α) (h : ∀ a, (f a).Composed touched) :
    Engine.Composed touched (l.mapM f) := by
  induction l with
  | nil => exact .pure _
  | cons a l ih =>
    rw [List.mapM_cons]
    exact .bind (h a) fun _ => .bind ih fun _ => .pure _

end Engine.Composed

namespace Assembly.Composed

/-- The same for a computation that may fail. -/
lemma mono {x : Assembly α} (h : x.Composed touched) (hsub : touched ⊆ touched') :
    x.Composed touched' := Engine.Composed.mono h hsub

/-- A success is composed of nothing. -/
lemma pure (a : α) : Assembly.Composed touched (Pure.pure a) := Engine.Composed.pure _

/-- A failure is composed of nothing. -/
lemma throw (e : BuildError) : Assembly.Composed touched (throw e : Assembly α) :=
  Engine.Composed.pure _

/-- An outcome that is known is composed of nothing. -/
lemma ofExcept (x : Except BuildError α) : (Assembly.ofExcept x).Composed touched :=
  Engine.Composed.pure _

/-- A sequence that stops at the first failure is composed of its parts. -/
lemma bind {x : Assembly α} {f : α → Assembly β} (hx : x.Composed touched)
    (hf : ∀ a, (f a).Composed touched) : Assembly.Composed touched (x >>= f) := by
  change Engine.Composed touched (x.run >>= ExceptT.bindCont f)
  refine Engine.Composed.bind hx fun r => ?_
  cases r with
  | ok a => exact hf a
  | error e => exact Engine.Composed.pure _

/-- A computation that cannot fail is composed of the same as part of one that may. -/
lemma lift {x : Engine α} (h : x.Composed touched) : Assembly.Composed touched (liftM x) :=
  Engine.Composed.bind h fun _ => .pure _

/-- Leaving out the result changes nothing. -/
lemma discard {x : Assembly α} (hx : x.Composed touched) :
    Assembly.Composed touched (discard x) :=
  bind hx fun _ => pure _

/-- What looks at the state beside its bags is composed of what it does then. -/
lemma observe {f : State → Assembly α} (hf : ∀ s s', s.core = s'.core → f s = f s')
    (h : ∀ s, (f s).Composed touched) : Assembly.Composed touched (get >>= f) := by
  change Engine.Composed touched (get >>= fun s => (f s).run)
  exact Engine.Composed.observe (fun s s' h => congrArg ExceptT.run (hf s s' h)) h

/-- Registering a value is an operation or nothing. -/
lemma register (r : RegistryId) (v : Value) : (Assembly.register r v).Composed touched := by
  unfold Assembly.register
  cases h : Conversion.ofValue v with
  | ok c => exact lift (.addConversion r ⟨v, h⟩)
  | error e => exact throw e

end Assembly.Composed

/-! ## Calls -/

/-- Only the components that an expression writes down are new. -/
lemma Expr.composed_eval : ∀ e : Expr, e.eval.Composed touched
  | .datum _ => .pure _
  | .func _ true => .pure _
  | .func _ false => .pure _
  | .app _ _ true => .pure _
  | .app _ _ false => .pure _
  | .numData _ _ => .pure _
  | .num _ _ true => .pure _
  | .num _ _ false => .pure _
  | .value inner => inner.composed_eval.bind fun _ => .pure _
  | .component _ _ _ none => (Engine.Composed.newCell _).bind fun _ => .pure _
  | .component _ _ _ (some callable) =>
    callable.composed_eval.bind fun _ => (Engine.Composed.newCell _).bind fun _ => .pure _
  | .componentData _ _ => (Engine.Composed.newCell _).bind fun _ => .pure _
  | .componentType _ _ _ _ => .pure _
  | .mountType => .pure _
  | .mapOptions _ _ => .pure _
  | .var _ => .observe (fun _ _ h => by rw [State.vars_eq_of_core h]) fun _ => .pure _

/-- What a function does besides its result leaves every cell alone. -/
lemma Func.composed_effects (f : Func) (trace : String) : (f.effects trace).Composed touched := by
  refine (Engine.Composed.logCall trace).bind fun _ => ?_
  refine (Engine.Composed.forM _ fun g => ?_).bind fun _ => Engine.Composed.forM _ fun w => ?_
  · split
    · next c hc => exact .addConversion _ ⟨.callable (.func g none), hc⟩
    · exact .pure _
  · exact w.2.composed_eval.bind fun _ => .setProperty _ _ _

namespace Num

/-- Evaluating a number function is composed of what it calls. -/
lemma composed_evalWith {held : CellId → UInt32 → Engine UInt32}
    (hheld : ∀ c x, (held c x).Composed touched) (n : Num) (x : UInt32) :
    (n.evalWith held x).Composed touched := by
  induction n with
  | linear mul add => exact .pure _
  | func f => exact (f.composed_effects _).bind fun _ => .pure _
  | «over» step base ih => exact ih.bind fun _ => .pure _
  | plain step => exact .pure _
  | resumed step cell => exact (hheld cell x).bind fun _ => .pure _

/-- Evaluating the function in a cell writes to the call log at most. -/
lemma composed_evalHeld (depth : Nat) (c : CellId) (x : UInt32) :
    (evalHeld depth c x).Composed touched := by
  induction depth generalizing c x with
  | zero => exact .pure _
  | succ depth ih =>
    refine .observe (fun s s' h => ?_) fun s => ?_
    · rw [State.heldNum_eq_of_core h]
    · split
      · exact composed_evalWith ih _ _
      · exact .pure _

/-- Applying a number function changes no cell. -/
lemma composed_eval (n : Num) (x : UInt32) : (n.eval x).Composed touched :=
  composed_evalWith (composed_evalHeld _) n x

end Num

/-- Showing a routine evaluates it at most. -/
lemma Routine.composed_render (r : Routine) : r.render.Composed touched := by
  unfold Routine.render
  split
  · exact (Num.composed_eval _ 1).bind fun _ => .pure _
  · exact .pure _

/-- Showing a component looks at its cell. -/
lemma Instance.composed_render (i : Instance) : i.render.Composed touched := by
  cases i with
  | crafted =>
    exact .observe (fun _ _ h => by rw [State.cellText_eq_of_core h]) fun _ => .pure _
  | mount => exact .pure _

mutual

/-- Showing a content changes no cell. -/
lemma Content.composed_render : ∀ c : Content, c.render.Composed touched
  | .datum _ => .pure _
  | .routine r => r.composed_render
  | .app _ _ => .pure _
  | .value v => v.composed_render.bind fun _ => .pure _
  | .component i => i.composed_render
  | .mapOptions _ _ => .pure _
  | .predicate _ => .pure _
  | .registration _ => .pure _

/-- Showing a value changes no cell. -/
lemma Value.composed_render : ∀ v : Value, v.render.Composed touched
  | .data c => c.composed_render
  | .bound c => c.composed_render
  | .callable r => r.composed_render
  | .component i => i.composed_render
  | .componentType _ => .pure _

end

/-- Making contents ready for a cell makes components at most. -/
lemma composed_hold (args : List Content) : (hold args).Composed touched :=
  .mapM args fun c => c.composed_render.bind fun _ => .pure _

/-- The result of a function is made by making components at most. -/
lemma Func.composed_result (f : Func) (trace : String) (args : List Held) :
    (f.result trace args).Composed touched := by
  unfold Func.result
  cases f.out with
  | numFn =>
    dsimp only
    split <;> exact .pure _
  | component => exact (Engine.Composed.newCell _).bind fun _ => .pure _
  | _ => exact .pure _

/-- The cell that a call of a routine changes: that of the component which keeps what it is told. -/
def Routine.touches : Routine → Set CellId
  | .func _ owner => {c | owner = some c}
  | _ => ∅

/-- A function changes the cell of the component that keeps its arguments, and no other. -/
lemma Func.composed_run (f : Func) (owner : Option CellId) (args : List Content) :
    (f.run owner args).Composed (Routine.func f owner).touches := by
  refine (composed_hold args).bind fun held => (f.composed_effects _).bind fun _ => ?_
  cases owner with
  | none => exact f.composed_result _ _
  | some c =>
    have hc : c ∈ (Routine.func f (some c)).touches := rfl
    exact .bind (.setCell hc held) fun _ => f.composed_result _ _

/-- A call changes the cell that its routine touches, and no other. -/
lemma Routine.composed_run (r : Routine) (args : List Content) :
    (r.run args).Composed r.touches := by
  unfold Routine.run
  split
  · exact Func.composed_run _ _ _
  · exact (Num.composed_eval _ _).bind fun _ => .pure _
  · exact .pure _
  · exact .pure _
  · refine .bind (x := (Assembly.register _ _).run) (Assembly.Composed.register _ _) fun x => ?_
    split <;> exact .pure _
  · exact .pure _
  · exact .pure _
  · exact .pure _
  · exact .pure _

/-- A call with values changes the cell of the routine at most. -/
lemma Routine.composed_invoke (r : Routine) (args : Args) : (r.invoke args).Composed r.touches :=
  .bind (.ofExcept _) fun _ => .bind (.lift (r.composed_run _)) fun _ => .pure _

/-- Calling a value is composed of operations. -/
lemma Value.composed_invoke (v : Value) (args : Args) : (v.invoke args).Composed Set.univ := by
  unfold Value.invoke
  split
  · exact (Routine.composed_invoke _ args).mono (Set.subset_univ _)
  · exact .throw _

/-! ## Conversions and stages -/

section Convert

variable {edges : List Conversion}

/-- Sending a value along one edge changes the cells of the edges at most. -/
lemma composed_oneHop (hedges : ∀ c ∈ edges, c.routine.touches ⊆ touched) (v : Value)
    (t : Convention) : (oneHop edges v t).Composed touched := by
  unfold oneHop
  split
  · exact .pure _
  · split
    · exact .pure _
    · split
      · next c hc =>
        refine .bind ?_ fun _ => .pure _
        exact (c.routine.composed_invoke _).mono (hedges c (List.mem_of_find?_eq_some hc))
      · exact .pure _

/-- So does trying the edges one after the other as the last one of a longer way. -/
lemma composed_through (hedges : ∀ c ∈ edges, c.routine.touches ⊆ touched) (v : Value)
    (t : Convention) :
    ∀ rest, (∀ c ∈ rest, c ∈ edges) → (through edges v t rest).Composed touched := by
  intro rest
  induction rest with
  | nil => exact fun _ => .pure _
  | cons e rest ih =>
    intro hrest
    have ih := ih fun c hc => hrest c (List.mem_cons_of_mem _ hc)
    unfold through
    refine .bind ?_ fun found => ?_
    · unfold approach
      split
      · exact .pure _
      · exact composed_oneHop hedges _ _
    split
    · exact ih
    · refine .bind ?_ fun middle => .bind (composed_oneHop hedges _ _) fun found => ?_
      · exact (e.routine.composed_invoke _).mono (hedges e (hrest e List.mem_cons_self))
      · split
        · exact .pure _
        · exact ih

/-- A conversion changes the cells that the routines of the edges touch. -/
lemma composed_convert (hedges : ∀ c ∈ edges, c.routine.touches ⊆ touched) (v : Value)
    (t : Convention) : (convert edges v t).Composed touched := by
  unfold convert search
  refine .bind (.bind (composed_oneHop hedges _ _) fun found => ?_) fun found => ?_
  · split
    · exact .pure _
    · exact composed_through hedges v t edges fun _ h => h
  · split
    · exact .bind (.lift (.report _)) fun _ => .bind (.lift (.raise _ _)) fun _ => .pure _
    · exact .bind (.lift (.report _)) fun _ => .bind (.lift (.raise _ _)) fun _ => .throw _

end Convert

/-- The cell that making a wrapped app changes. -/
def Factory.touches : Factory → Set CellId
  | .callable r => r.touches
  | .told r _ => r.touches
  | .invoke r => r.touches
  | .construct _ _ => ∅

/-- Making a component changes no cell that is there. -/
lemma ComponentType.composed_make (t : ComponentType) (args : List Content) :
    (t.make args).Composed touched := by
  unfold ComponentType.make
  split
  · exact (composed_hold _).bind fun _ => (Engine.Composed.logCall _).bind fun _ =>
      (Engine.Composed.newCell _).bind fun _ => .pure _
  · exact .pure _
  · exact .pure _

/-- A stage changes the cell that its routine touches. -/
lemma Stage.composed_apply (st : Stage) (next : Value) :
    (st.apply next).Composed st.factory.touches := by
  unfold Stage.apply
  cases st.factory with
  | callable r => exact r.composed_invoke _
  | told r component => exact .bind (r.composed_invoke _).discard fun _ => .pure _
  | invoke r => exact r.composed_invoke _
  | construct t params =>
    exact .bind (.ofExcept _) fun _ => .bind (.lift (t.composed_make _)) fun _ => .pure _

/-- Whatever edges a registry has, a conversion is composed of operations. -/
lemma composed_convertIn (r : RegistryId) (v : Value) (t : Convention) :
    (convertIn r v t).Composed Set.univ :=
  .observe (fun _ _ h => by rw [State.registry_eq_of_core h]) fun _ =>
    composed_convert (fun _ _ => Set.subset_univ _) v t

/-- The same for putting stages around an app. -/
lemma Builder.composed_fold (r : RegistryId) (stages : List Stage) (app : Value) :
    (fold r stages app).Composed Set.univ := by
  induction stages generalizing app with
  | nil => exact .pure _
  | cons st rest ih =>
    exact (composed_convertIn r _ _).bind fun next =>
      ((st.composed_apply next).mono (Set.subset_univ _)).bind fun made =>
        (composed_convertIn r _ _).bind fun app => ih app

/-- Reporting that a pipeline has been built changes no cell. -/
lemma Builder.composed_reportBuilt (stages : Nat) (t : Convention) (app : Value) :
    Assembly.Composed touched (do
      Engine.report (.built stages t)
      Engine.raise (.build t.kind) 1
      Engine.raise (.buildDuration t.kind) 1
      Engine.raise .buildStages 1
      Engine.raise .stagesBuilt stages
      pure app : Assembly Value) :=
  .bind (.lift (.report _)) fun _ => .bind (.lift (.raise _ _)) fun _ =>
    .bind (.lift (.raise _ _)) fun _ => .bind (.lift (.raise _ _)) fun _ =>
      .bind (.lift (.raise _ _)) fun _ => .pure app

end Pipework
