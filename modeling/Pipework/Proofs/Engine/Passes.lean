import Pipework.Proofs.Engine.Exec

set_option autoImplicit false

/-!
# Properties that pass through computations

Whatever is evaluated, called, converted or built is a sequence of a few steps. A property that
these steps have and that passes through sequences is a property of all of it. This file follows
such a property through calls, searches and builds, once for all properties.

## Main definitions

* `Engine.Passes`, `Assembly.Passes` — a property passes through sequences.
* `Engine.PassesEval`, `Engine.PassesCalls` — the steps of evaluations and of calls have it, too.

## Main results

* `Expr.passes_eval`, `Routine.passes_invoke`, `Stage.passes_apply` — evaluations and calls.
* `passes_search`, `passes_convert` — searches and conversions.
* `Builder.passes_assemble` — putting stages around an app.
-/

namespace Pipework

variable {α β : Type}

/-- A property of computations passes through sequences. -/
structure Engine.Passes (P : (α : Type) → Engine α → Prop) : Prop where
  pure : ∀ {α : Type} (a : α), P α (Pure.pure a)
  bind : ∀ {α β : Type} {x : Engine α} {f : α → Engine β}, P α x → (∀ a, P β (f a)) →
    P β (x >>= f)

/-- The same for a property of computations that may fail. -/
structure Assembly.Passes (Q : (α : Type) → Assembly α → Prop) : Prop where
  pure : ∀ {α : Type} (a : α), Q α (Pure.pure a)
  bind : ∀ {α β : Type} {x : Assembly α} {f : α → Assembly β}, Q α x → (∀ a, Q β (f a)) →
    Q β (x >>= f)

/-- The steps of an evaluation have the property: it looks at components and variables, and makes
components. -/
structure Engine.PassesEval (P : (α : Type) → Engine α → Prop) : Prop extends Engine.Passes P where
  observe : ∀ {α : Type} {f : State → Engine α},
    (∀ s s', s.cells = s'.cells → s.vars = s'.vars → f s = f s') → (∀ s, P α (f s)) →
      P α (get >>= f)
  newCell : ∀ entries : List Held, P CellId (Engine.newCell entries)

/-- The steps of a call have the property. What a function does besides its result is one step. -/
structure Engine.PassesCalls (P : (α : Type) → Engine α → Prop) : Prop
    extends Engine.PassesEval P where
  effects : ∀ (f : Func) (trace : String), P Unit (f.effects trace)
  register : ∀ (k : RegistryId) (v : Value), P _ (Assembly.register k v).run
  logCall : ∀ line : String, P Unit (Engine.logCall line)
  setCell : ∀ (c : CellId) (entries : List Held), P Unit (Engine.setCell c entries)

variable {P : (α : Type) → Engine α → Prop} {Q : (α : Type) → Assembly α → Prop}

/-! ## Sequences -/

namespace Engine.Passes

variable (hP : Engine.Passes P)
include hP

/-- The property passes through steps one after the other, without results. -/
lemma forM {f : α → Engine PUnit} (l : List α) (h : ∀ a, P PUnit (f a)) : P PUnit (l.forM f) := by
  induction l with
  | nil => exact hP.pure _
  | cons a l ih => exact hP.bind (h a) fun _ => ih

/-- The property passes through steps one after the other, with a list of their results. -/
lemma mapM {f : α → Engine β} (l : List α) (h : ∀ a, P β (f a)) : P (List β) (l.mapM f) := by
  induction l with
  | nil => exact hP.pure _
  | cons a l ih =>
    rw [List.mapM_cons]
    exact hP.bind (h a) fun _ => hP.bind ih fun _ => hP.pure _

/-- The property passes through sequences that stop at the first failure. -/
lemma assembly : Assembly.Passes fun α x => P (Except BuildError α) x.run where
  pure a := hP.pure (Except.ok a)
  bind {α β x f} hx hf := by
    change P _ (x.run >>= ExceptT.bindCont f)
    refine hP.bind hx fun r => ?_
    cases r with
    | ok a => exact hf a
    | error e => exact hP.pure _

/-- Failures have the property. -/
lemma throw (e : BuildError) : P _ (throw e : Assembly α).run := hP.pure (Except.error e)

/-- Outcomes that are known have the property. -/
lemma ofExcept (x : Except BuildError α) : P _ (Assembly.ofExcept x).run := hP.pure x

/-- What cannot fail has the property as part of what may. -/
lemma lift {x : Engine α} (h : P α x) : P _ (liftM x : Assembly α).run :=
  hP.bind h fun _ => hP.pure _

end Engine.Passes

namespace Assembly.Passes

variable (hQ : Assembly.Passes Q)
include hQ

/-- Leaving out the result keeps the property. -/
lemma discard {x : Assembly α} (h : Q α x) : Q Unit (discard x) := hQ.bind h fun _ => hQ.pure _

/-- The same for steps that may fail. -/
lemma mapM {f : α → Assembly β} (l : List α) (h : ∀ a, Q β (f a)) : Q (List β) (l.mapM f) := by
  induction l with
  | nil => exact hQ.pure _
  | cons a l ih =>
    rw [List.mapM_cons]
    exact hQ.bind (h a) fun _ => hQ.bind ih fun _ => hQ.pure _

end Assembly.Passes

/-! ## Evaluations and calls -/

/-- Writing down a value makes new components at most. -/
lemma Expr.passes_eval (hP : Engine.PassesEval P) : ∀ e : Expr, P Value e.eval
  | .datum _ => hP.pure _
  | .func _ true => hP.pure _
  | .func _ false => hP.pure _
  | .app _ _ true => hP.pure _
  | .app _ _ false => hP.pure _
  | .numData _ _ => hP.pure _
  | .num _ _ true => hP.pure _
  | .num _ _ false => hP.pure _
  | .value inner => hP.bind (inner.passes_eval hP) fun _ => hP.pure _
  | .component _ _ _ none => hP.bind (hP.newCell _) fun _ => hP.pure _
  | .component _ _ _ (some callable) =>
    hP.bind (callable.passes_eval hP) fun _ => hP.bind (hP.newCell _) fun _ => hP.pure _
  | .componentData _ _ => hP.bind (hP.newCell _) fun _ => hP.pure _
  | .componentType _ _ _ _ => hP.pure _
  | .mountType => hP.pure _
  | .mapOptions _ _ => hP.pure _
  | .var _ => hP.observe (fun _ _ _ hvars => by rw [hvars]) fun _ => hP.pure _

section Call

variable (hP : Engine.PassesCalls P)
include hP

namespace Num

/-- Evaluating a number function has the property if what it calls has it. -/
lemma passes_evalWith {held : CellId → UInt32 → Engine UInt32} (hheld : ∀ c x, P _ (held c x))
    (n : Num) (x : UInt32) : P UInt32 (n.evalWith held x) := by
  induction n with
  | linear mul add => exact hP.pure _
  | func f => exact hP.bind (hP.effects f _) fun _ => hP.pure _
  | «over» step base ih => exact hP.bind ih fun _ => hP.pure _
  | plain step => exact hP.pure _
  | resumed step cell => exact hP.bind (hheld cell x) fun _ => hP.pure _

/-- Evaluating the function in a cell has the property. -/
lemma passes_evalHeld (depth : Nat) (c : CellId) (x : UInt32) :
    P UInt32 (evalHeld depth c x) := by
  induction depth generalizing c x with
  | zero => exact hP.pure _
  | succ depth ih =>
    refine hP.observe (fun s s' hcells _ => ?_) fun s => ?_
    · have hheld : s.heldNum c = s'.heldNum c := by
        rw [State.heldNum, State.heldNum, State.cell, State.cell, hcells]
      rw [hheld]
    · split
      · exact passes_evalWith hP ih _ _
      · exact hP.pure _

/-- Evaluating a number function has the property. -/
lemma passes_eval (n : Num) (x : UInt32) : P UInt32 (n.eval x) :=
  passes_evalWith hP (passes_evalHeld hP _) n x

end Num

/-- Showing a routine has the property. -/
lemma Routine.passes_render (r : Routine) : P String r.render := by
  unfold Routine.render
  split
  · exact hP.bind (Num.passes_eval hP _ 1) fun _ => hP.pure _
  · exact hP.pure _

/-- Showing a component has the property. -/
lemma Instance.passes_render (i : Instance) : P String i.render := by
  cases i with
  | crafted cls label ops callable cell =>
    refine hP.observe (fun s s' hcells _ => ?_) fun _ => hP.pure _
    have htext : s.cellText cell = s'.cellText cell := by
      rw [State.cellText, State.cellText, State.cell, State.cell, hcells]
    rw [htext]
  | mount => exact hP.pure _

mutual

/-- Showing a content may run number functions. -/
lemma Content.passes_render : ∀ c : Content, P String c.render
  | .datum _ => hP.pure _
  | .routine r => r.passes_render hP
  | .app _ _ => hP.pure _
  | .value v => hP.bind v.passes_render fun _ => hP.pure _
  | .component i => i.passes_render hP
  | .mapOptions _ _ => hP.pure _
  | .predicate _ => hP.pure _
  | .registration _ => hP.pure _

/-- Showing a value may run number functions. -/
lemma Value.passes_render : ∀ v : Value, P String v.render
  | .data c => c.passes_render
  | .bound c => c.passes_render
  | .callable r => r.passes_render hP
  | .component i => i.passes_render hP
  | .componentType _ => hP.pure _

end

/-- Making contents ready for a cell has the property. -/
lemma passes_hold (args : List Content) : P _ (hold args) :=
  hP.mapM args fun c => hP.bind (c.passes_render hP) fun _ => hP.pure _

/-- Making the result of a function has the property. -/
lemma Func.passes_result (f : Func) (trace : String) (args : List Held) :
    P Content (f.result trace args) := by
  unfold Func.result
  cases f.out with
  | numFn =>
    dsimp only
    split <;> exact hP.pure _
  | component => exact hP.bind (hP.newCell _) fun _ => hP.pure _
  | _ => exact hP.pure _

/-- Running a function has the property. -/
lemma Func.passes_run (f : Func) (owner : Option CellId) (args : List Content) :
    P Content (f.run owner args) := by
  refine hP.bind (passes_hold hP args) fun held => hP.bind (hP.effects f _) fun _ => ?_
  dsimp only
  split
  · exact hP.bind (hP.setCell _ held) fun _ => f.passes_result hP _ _
  · exact f.passes_result hP _ _

/-- What a routine does has the property. -/
lemma Routine.passes_run (r : Routine) (args : List Content) : P Content (r.run args) := by
  unfold Routine.run
  split
  · exact Func.passes_run hP _ _ _
  · exact hP.bind (Num.passes_eval hP _ _) fun _ => hP.pure _
  · exact hP.pure _
  · exact hP.pure _
  · refine hP.bind (hP.register _ _) fun x => ?_
    split <;> exact hP.pure _
  · exact hP.pure _
  · exact hP.pure _
  · exact hP.pure _
  · exact hP.pure _

/-- A call has the property. -/
lemma Routine.passes_invoke (r : Routine) (args : Args) : P _ (r.invoke args).run :=
  hP.assembly.bind (hP.ofExcept _) fun _ =>
    hP.assembly.bind (hP.lift (r.passes_run hP _)) fun _ => hP.assembly.pure _

/-- Calling a value has the property. -/
lemma Value.passes_invoke (v : Value) (args : Args) : P _ (v.invoke args).run := by
  unfold Value.invoke
  split
  · exact Routine.passes_invoke hP _ args
  · exact hP.throw _

/-- Making a component has the property. -/
lemma ComponentType.passes_make (t : ComponentType) (args : List Content) :
    P Instance (t.make args) := by
  unfold ComponentType.make
  split
  · exact hP.bind (passes_hold hP _) fun _ => hP.bind (hP.logCall _) fun _ =>
      hP.bind (hP.newCell _) fun _ => hP.pure _
  · exact hP.pure _
  · exact hP.pure _

/-- Constructing a component from given parameters has the property. -/
lemma ComponentType.passes_constructWith (t : ComponentType) (params : List Shape) (args : Args) :
    P _ (t.constructWith params args).run :=
  hP.assembly.bind (hP.ofExcept _) fun _ =>
    hP.assembly.bind (hP.lift (t.passes_make hP _)) fun _ => hP.assembly.pure _

/-- Constructing a component has the property. -/
lemma ComponentType.passes_construct (t : ComponentType) (args : Args) :
    P _ (t.construct args).run := by
  unfold ComponentType.construct
  split
  · exact t.passes_constructWith hP _ args
  · exact hP.throw _

/-- Applying a stage has the property. -/
lemma Stage.passes_apply (st : Stage) (next : Value) : P _ (st.apply next).run := by
  unfold Stage.apply
  cases st.factory with
  | callable r => exact r.passes_invoke hP _
  | told r component =>
    exact hP.assembly.bind (hP.assembly.discard (r.passes_invoke hP _)) fun _ =>
      hP.assembly.pure _
  | invoke r => exact r.passes_invoke hP _
  | construct t params => exact t.passes_constructWith hP params _

end Call

/-! ## Searches -/

section Search

variable (hQ : Assembly.Passes Q) {edges : List Conversion}
  (hedges : ∀ c ∈ edges, ∀ v, Q Value (c.apply v))
include hQ hedges

/-- Sending a value along one edge has the property. -/
lemma passes_oneHop (v : Value) (t : Convention) : Q _ (oneHop edges v t) := by
  unfold oneHop
  split
  · exact hQ.pure _
  · split
    · exact hQ.pure _
    · split
      · next c hc =>
        exact hQ.bind (hedges c (List.mem_of_find?_eq_some hc) v) fun _ => hQ.pure _
      · exact hQ.pure _

/-- So has trying the edges one after the other as the last one of a longer way. -/
lemma passes_through (v : Value) (t : Convention) :
    ∀ rest, (∀ c ∈ rest, c ∈ edges) → Q _ (through edges v t rest) := by
  intro rest
  induction rest with
  | nil => exact fun _ => hQ.pure _
  | cons c rest ih =>
    intro hrest
    have ih := ih fun d hd => hrest d (List.mem_cons_of_mem _ hd)
    have happroach : Q _ (approach edges v c) := by
      unfold approach
      split
      · exact hQ.pure _
      · exact passes_oneHop hQ hedges v _
    unfold through
    refine hQ.bind happroach fun found => ?_
    split
    · exact ih
    · refine hQ.bind (hedges c (hrest c List.mem_cons_self) _) fun middle => ?_
      refine hQ.bind (passes_oneHop hQ hedges middle t) fun found => ?_
      split
      · exact hQ.pure _
      · exact ih

/-- A search has the property if its edges have it. -/
lemma passes_search (v : Value) (t : Convention) : Q _ (search edges v t) := by
  unfold search
  refine hQ.bind (passes_oneHop hQ hedges v t) fun found => ?_
  split
  · exact hQ.pure _
  · exact passes_through hQ hedges v t edges fun _ h => h

end Search

section Report

variable (hP : Engine.Passes P) (hreport : ∀ e : Event, P Unit (Engine.report e))
  (hraise : ∀ (c : Counter) (n : Nat), P Unit (Engine.raise c n))
include hP hreport hraise

/-- A conversion is a search that is reported and counted. -/
lemma passes_convert {edges : List Conversion} (hedges : ∀ c ∈ edges, ∀ v, P _ (c.apply v).run)
    (v : Value) (t : Convention) : P _ (convert edges v t).run := by
  unfold convert
  refine hP.assembly.bind (passes_search hP.assembly hedges v t) fun found => ?_
  split
  · exact hP.assembly.bind (hP.lift (hreport _)) fun _ =>
      hP.assembly.bind (hP.lift (hraise _ _)) fun _ => hP.assembly.pure _
  · exact hP.assembly.bind (hP.lift (hreport _)) fun _ =>
      hP.assembly.bind (hP.lift (hraise _ _)) fun _ => hP.throw _

/-! ## Builds -/

namespace Builder

variable {k : RegistryId} (hconvert : ∀ v t, P _ (convertIn k v t).run)
  (happly : ∀ (st : Stage) v, P _ (st.apply v).run)
include hconvert happly

omit hreport hraise in
/-- Putting stages around an app has the property. -/
lemma passes_fold (stages : List Stage) (app : Value) : P _ (fold k stages app).run := by
  induction stages generalizing app with
  | nil => exact hP.assembly.pure _
  | cons st stages ih =>
    exact hP.assembly.bind (hconvert app _) fun next =>
      hP.assembly.bind (happly st next) fun made => hP.assembly.bind (hconvert made _) ih

/-- Putting the stages around a terminal app and bringing that to a target has the property if
conversions and stages have it. -/
lemma passes_assemble (stages : List Stage) (t : Convention) (app : Value) :
    P _ (do
      let app ← fold k stages.reverse app
      let app ← convertIn k app t
      Engine.report (.built stages.length t)
      Engine.raise (.build t.kind) 1
      Engine.raise (.buildDuration t.kind) 1
      Engine.raise .buildStages 1
      Engine.raise .stagesBuilt stages.length
      pure app : Assembly Value).run :=
  hP.assembly.bind (passes_fold hP hconvert happly _ _) fun app =>
    hP.assembly.bind (hconvert app t) fun _ => hP.assembly.bind (hP.lift (hreport _)) fun _ =>
      hP.assembly.bind (hP.lift (hraise _ _)) fun _ =>
        hP.assembly.bind (hP.lift (hraise _ _)) fun _ =>
          hP.assembly.bind (hP.lift (hraise _ _)) fun _ =>
            hP.assembly.bind (hP.lift (hraise _ _)) fun _ => hP.assembly.pure _

end Builder

end Report

namespace Builder

variable (hP : Engine.Passes P) {b : Builder}
include hP

/-- Building a value of a type has the property if building a value has it. -/
lemma passes_build {type : Shape} (h : P _ (b.buildValue (Convention.ofShape type)).run) :
    P _ (b.build type).run := by
  refine hP.assembly.bind h fun v => ?_
  split
  · exact hP.assembly.pure _
  · exact hP.throw _

/-- Building an app has the property if building a function of the environment has it. -/
lemma passes_buildApp (h : P _ (b.build .appFunc).run) : P _ b.buildApp.run := by
  refine hP.assembly.bind h fun c => ?_
  split <;> exact hP.assembly.pure _

end Builder

end Pipework
