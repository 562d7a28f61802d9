import Pipework.Proofs.Workshop.Growth

set_option autoImplicit false

/-!
# Steps of programs that run, as calls

A program that runs looks at its values, stores them, calls, converts and builds. Everything that it
does in such a step to the state of the engine is a sequence of calls in a workshop, whose builders
stay what they are.

## Main definitions

* `Engine.ByCalls` — a computation that is a sequence of calls.

## Main results

* `Engine.byCalls_passes` — sequences of such computations are such computations.
* `Session.byCalls_runPlain` — steps that change nothing about the builder they work on.
-/

namespace Pipework

/-! ## Courses -/

namespace Course

/-- A program that goes on where another one has stopped. -/
lemma trans {busy : List Nat} {w w₁ w' : Workshop} {l l' : List StageKind} (h : Course busy w l w₁)
    (h' : Course busy w₁ l' w') : Course busy w (l ++ l') w' := by
  induction h' with
  | start busy w =>
    rw [List.append_nil]
    exact h
  | act _ a ha ih =>
    rw [← List.append_assoc]
    exact .act (ih h) a ha
  | reject _ hi hg conf ih => exact .reject (ih h) hi hg conf
  | mount _ hi hg hconf ih _ =>
    rw [← List.append_assoc, ← List.append_assoc]
    exact .mount (ih h) hi hg hconf

/-- A program may keep away from fewer builders than it does. -/
lemma mono {busy busy' : List Nat} {w w' : Workshop} {l : List StageKind} (h : Course busy w l w')
    (hsub : busy' ⊆ busy) : Course busy' w l w' := by
  induction h generalizing busy' with
  | start busy w => exact .start _ _
  | act _ a ha ih => exact .act (ih hsub) a fun i hi => ⟨(ha i hi).1, mt (@hsub i) (ha i hi).2⟩
  | reject _ hi hg conf ih => exact .reject (ih hsub) ⟨hi.1, mt (@hsub _) hi.2⟩ hg conf
  | mount _ hi hg _ ih ihconf =>
    exact .mount (ih hsub) ⟨hi.1, mt (@hsub _) hi.2⟩ hg (ihconf (List.cons_subset_cons _ hsub))

end Course

/-! ## Sequences of calls -/

/-- What the computation does to the state is done by calls of a program that does not work on the
builders at the places `busy`. -/
def Engine.ByCalls (busy : List Nat) (ms : List Member) {α : Type} (x : Engine α) : Prop :=
  ∀ s, Course busy ⟨s, ms⟩ [] ⟨(x.exec s).2, ms⟩

variable {busy : List Nat} {ms : List Member} {α : Type}

/-- Sequences of such computations are such computations. -/
lemma Engine.byCalls_passes (busy : List Nat) (ms : List Member) :
    Engine.Passes fun _ x => Engine.ByCalls busy ms x where
  pure _ _ := .start _ _
  bind hx hf s := (hx s).trans (hf _ _)

/-- A computation that does to the state what a call does. -/
lemma Engine.ByCalls.of_call (x : Call)
    (hx : ∀ i ∈ (Act.call x).places, i < ms.length ∧ i ∉ busy) {y : Engine α}
    (h : ∀ s, ((x.run ⟨s, ms⟩).exec s).2 = (y.exec s).2) : y.ByCalls busy ms := by
  intro s
  have hact := Course.act (.start busy ⟨s, ms⟩) (.call x) hx
  rw [Act.exec_call, h] at hact
  exact hact

/-- Looking at the state is no call. -/
lemma Engine.ByCalls.get_bind {f : State → Engine α} (h : ∀ s, (f s).ByCalls busy ms) :
    Engine.ByCalls busy ms (get >>= f) := fun s => h s s

/-- The same for a computation that may fail. -/
lemma Engine.ByCalls.assembly_get_bind {f : State → Assembly α}
    (h : ∀ s, Engine.ByCalls busy ms (f s).run) :
    Engine.ByCalls busy ms (get >>= f : Assembly α).run := fun s => h s s

/-! ### Values -/

/-- Evaluating an expression is one call. -/
lemma Expr.byCalls_eval (e : Expr) : e.eval.ByCalls busy ms := .of_call (.eval e) nofun fun _ => rfl

/-- Showing a value is one call. -/
lemma Value.byCalls_render (v : Value) : v.render.ByCalls busy ms :=
  .of_call (.render v) nofun fun _ => rfl

/-- Showing a content is showing it as a value. -/
lemma Content.byCalls_render (c : Content) : c.render.ByCalls busy ms := by
  have hvalue : (Value.data c).render = c.render := by rw [Value.render]
  rw [← hvalue]
  exact (Value.data c).byCalls_render

/-- Evaluating a number function is one call. -/
lemma Num.byCalls_eval (n : Num) (x : UInt32) : (n.eval x).ByCalls busy ms :=
  .of_call (.number n x) nofun fun _ => rfl

/-- Calling a value is one call. -/
lemma Value.byCalls_invoke (v : Value) (args : Args) : Engine.ByCalls busy ms (v.invoke args).run :=
  .of_call (.invoke v args) nofun fun s => by rw [Call.run, Assembly.exec_discard]; rfl

/-- Applying a stage is one call. -/
lemma Stage.byCalls_apply (st : Stage) (next : Value) :
    Engine.ByCalls busy ms (st.apply next).run :=
  .of_call (.apply st next) nofun fun s => by rw [Call.run, Assembly.exec_discard]; rfl

/-- Constructing a component is one call. -/
lemma ComponentType.byCalls_construct (t : ComponentType) (args : Args) :
    Engine.ByCalls busy ms (t.construct args).run :=
  .of_call (.construct t args) nofun fun s => by rw [Call.run, Assembly.exec_discard]; rfl

/-! ### Builders -/

section Builder

variable {i : Nat} {m : Member} (hm : ms[i]? = some m) (hi : i ∉ busy)
include hm hi

/-- A computation that does what a call through a builder does. -/
lemma Engine.ByCalls.of_builder_call (x : Call) (hx : (Act.call x).places = [i]) {y : Engine α}
    (h : ∀ s, (⟨s, ms⟩ : Workshop).builder i = m.builder →
      ((x.run ⟨s, ms⟩).exec s).2 = (y.exec s).2) : y.ByCalls busy ms := by
  refine .of_call x (fun j hj => ?_) fun s => h s (Workshop.builder_of_getElem? hm)
  rw [hx] at hj
  obtain rfl := List.mem_singleton.1 hj
  exact ⟨(List.getElem?_eq_some_iff.1 hm).1, hi⟩

namespace Builder

/-- Storing a property is a write through the builder. -/
lemma byCalls_setProperty (key : String) (v : Value) :
    (Engine.setProperty m.builder.properties key v).ByCalls busy ms :=
  .of_builder_call hm hi (.write i (.set key v)) rfl fun s hb => by rw [Call.run, hb]; rfl

/-- Removing a property is a write through the builder. -/
lemma byCalls_removeProperty (key : String) :
    (Engine.removeProperty m.builder.properties key).ByCalls busy ms :=
  .of_builder_call hm hi (.write i (.remove key)) rfl fun s hb => by rw [Call.run, hb]; rfl

/-- Registering a conversion is a write through the builder. -/
lemma byCalls_register (v : Value) :
    Engine.ByCalls busy ms (Assembly.register m.builder.conversions v).run :=
  .of_builder_call hm hi (.write i (.register v)) rfl fun s hb => by rw [Call.run, hb]; rfl

/-- So is registering one through the callable in the property bag. -/
lemma byCalls_registerByBag (v : Value) :
    Engine.ByCalls busy ms (Session.registerByBag m.builder.properties v).run :=
  .of_builder_call hm hi (.registerByBag i v) rfl fun s hb => by
    rw [Call.run, hb, Assembly.exec_discard]
    rfl

/-- Converting a value is a call through the builder, whichever edges are asked for. -/
lemma byCalls_convert (r : Session.RegistryChoice) (v : Value) (t : Convention) :
    Engine.ByCalls busy ms (do
      let edges ← Session.chosenEdges m.builder.conversions r
      convert edges v t : Assembly Value).run :=
  .of_builder_call hm hi (.convert i r v t) rfl fun s hb => by
    rw [Call.run, hb, Assembly.exec_lift_bind, Assembly.exec_discard]
    exact (congrArg Prod.snd (Assembly.exec_lift_bind
      (Session.chosenEdges m.builder.conversions r) (fun edges => convert edges v t) s)).symm

/-- A build is a call through the builder. -/
lemma byCalls_buildValue (t : Convention) :
    Engine.ByCalls busy ms (m.builder.buildValue t).run :=
  .of_builder_call hm hi (.buildValue i t) rfl fun s hb => by
    rw [Call.run, hb, Assembly.exec_discard]
    rfl

/-- A build of a value of a type is a call through the builder. -/
lemma byCalls_build (type : Shape) : Engine.ByCalls busy ms (m.builder.build type).run :=
  .of_builder_call hm hi (.build i type) rfl fun s hb => by
    rw [Call.run, hb, Assembly.exec_discard]
    rfl

end Builder

end Builder

/-! ## Steps without branches -/

namespace Session

section Values

/-- Storing a value in a variable is one call. -/
lemma byCalls_store (name : Option String) (v : Value) : (store name v).ByCalls busy ms :=
  .of_call (.store name v) nofun fun _ => rfl

/-- Looking up a variable is no call. -/
lemma byCalls_lookup (name : String) : (lookup name).ByCalls busy ms :=
  .get_bind fun _ => (Engine.byCalls_passes busy ms).pure _

/-- What a value shows of itself takes the call for its text. -/
lemma byCalls_view (v : Value) : (view v).ByCalls busy ms :=
  (Engine.byCalls_passes busy ms).bind v.byCalls_render fun _ =>
    (Engine.byCalls_passes busy ms).pure _

/-- An answer with a value stores the value and shows it. -/
lemma byCalls_answerValue (name : Option String) (v : Value) :
    (answerValue name v).ByCalls busy ms := by
  have hP := Engine.byCalls_passes busy ms
  exact hP.bind (byCalls_store name v) fun _ => hP.bind (byCalls_view v) fun _ => hP.pure _

/-- Evaluating expressions is a call for each of them. -/
lemma byCalls_evalAll (l : List Expr) : (evalAll l).ByCalls busy ms :=
  (Engine.byCalls_passes busy ms).mapM l Expr.byCalls_eval

/-- An optional value is shown if it is there. -/
lemma byCalls_viewOption (v : Option Value) : (viewOption v).ByCalls busy ms := by
  have hP := Engine.byCalls_passes busy ms
  cases v with
  | none => exact hP.pure _
  | some v => exact hP.bind (byCalls_view v) fun _ => hP.pure _

/-- Inspecting a value shows it, and the callable of a component. -/
lemma byCalls_runInspect (v : Value) (fits : List Shape) (satisfies : List Convention)
    (types : List Shape) : (runInspect v fits satisfies types).ByCalls busy ms := by
  have hP := Engine.byCalls_passes busy ms
  unfold runInspect
  refine hP.bind (byCalls_view v) fun w => ?_
  cases v with
  | component i => exact hP.bind (byCalls_viewOption _) fun _ => hP.pure _
  | _ => exact hP.pure _

/-- Taking an argument for a type shows its content. -/
lemma byCalls_runExtract (args : Args) (index : Nat) (type : Shape) :
    (runExtract args index type).ByCalls busy ms := by
  have hP := Engine.byCalls_passes busy ms
  unfold runExtract
  split
  · exact hP.bind (Content.byCalls_render _) fun _ => hP.pure _
  · exact hP.pure _

/-- Inspecting arguments shows some of them. -/
lemma byCalls_runArguments (args : Args) (fits : Option (List (List Shape)))
    (extract : Option (List (Nat × Shape))) (front : Option Value) (index : Option Nat) :
    (runArguments args fits extract front index).ByCalls busy ms := by
  have hP := Engine.byCalls_passes busy ms
  unfold runArguments
  cases extract with
  | none =>
    refine hP.bind (hP.pure none) fun _ => ?_
    cases index with
    | none => exact hP.pure _
    | some i => exact hP.bind (byCalls_viewOption _) fun _ => hP.pure _
  | some l =>
    refine hP.bind (hP.mapM l fun x => byCalls_runExtract args x.1 x.2) fun _ => ?_
    cases index with
    | none => exact hP.pure _
    | some i => exact hP.bind (byCalls_viewOption _) fun _ => hP.pure _

/-- Calling an operation is one call, and its result is shown. -/
lemma byCalls_runOperation (args : Args) (o : Operation) :
    (runOperation args o).ByCalls busy ms := by
  have hP := Engine.byCalls_passes busy ms
  refine hP.bind (o.value.byCalls_invoke args) fun r => ?_
  cases r with
  | ok out => exact hP.bind (byCalls_view out) fun _ => hP.pure _
  | error e => exact hP.pure _

/-- Calling every operation of a name is a call for each of them. -/
lemma byCalls_runOperations (v : Value) (name : String) (args : Args) :
    (runOperations v name args).ByCalls busy ms := by
  have hP := Engine.byCalls_passes busy ms
  exact hP.bind (hP.mapM _ (byCalls_runOperation args)) fun _ =>
    hP.bind v.byCalls_render fun _ => hP.pure _

/-- Resolving a stage is no call, and applying it is one. -/
lemma byCalls_runResolve (name : Option String) (d : Value) (args : Args) (next : Option Value) :
    Engine.ByCalls busy ms (runResolve name d args next).run := by
  have hP := Engine.byCalls_passes busy ms
  refine hP.assembly.bind (hP.ofExcept _) fun stage => ?_
  cases next with
  | none => exact hP.assembly.pure _
  | some n =>
    have hattempt : Engine.ByCalls busy ms (stage.apply n).attempt.run :=
      hP.bind (stage.byCalls_apply n) fun _ => hP.pure _
    refine hP.assembly.bind hattempt fun r => ?_
    cases r with
    | ok out =>
      exact hP.assembly.bind (hP.lift (byCalls_store name out)) fun _ =>
        hP.assembly.bind (hP.lift (byCalls_view out)) fun _ => hP.assembly.pure _
    | error e => exact hP.assembly.pure _

/-- Constructing a component and showing it are calls. -/
lemma byCalls_runConstruct (name : Option String) (v : Value) (args : Args) :
    Engine.ByCalls busy ms (runConstruct name v args).run := by
  have hP := Engine.byCalls_passes busy ms
  unfold runConstruct
  split
  · exact hP.assembly.bind (ComponentType.byCalls_construct _ args) fun out =>
      hP.assembly.bind (hP.lift (byCalls_store name out)) fun _ =>
        hP.assembly.bind (hP.lift (byCalls_view out)) fun _ => hP.assembly.pure _
  · exact hP.assembly.pure _

end Values

section Builder

variable {i : Nat} {m : Member} (hm : ms[i]? = some m) (hi : i ∉ busy)
include hm hi

/-- A step on a property bag writes through the builder or only looks. -/
lemma byCalls_runProperty (p : PropertyStep) :
    (runProperty m.builder.properties p).ByCalls busy ms := by
  have hP := Engine.byCalls_passes busy ms
  have hprevious (v : Option Value) : (runProperty.previous v).ByCalls busy ms := by
    cases v with
    | none => exact hP.pure _
    | some v => exact hP.bind (byCalls_view v) fun _ => hP.pure _
  cases p with
  | get name key =>
    refine .get_bind fun s => ?_
    split
    · exact hP.bind (byCalls_store name _) fun _ => hP.bind (byCalls_view _) fun _ => hP.pure _
    · exact hP.pure _
  | getAs key type => exact .get_bind fun _ => hP.pure _
  | set key e =>
    exact hP.bind e.byCalls_eval fun v =>
      hP.bind (Builder.byCalls_setProperty hm hi key v) hprevious
  | remove key => exact hP.bind (Builder.byCalls_removeProperty hm hi key) hprevious
  | has key => exact .get_bind fun _ => hP.pure _
  | keys => exact .get_bind fun _ => hP.pure _

/-- Registering a conversion takes one of the two ways through the builder. -/
lemma byCalls_runAdd (e : Expr) (route : Route) :
    Engine.ByCalls busy ms (runAdd m.builder e route).run := by
  have hP := Engine.byCalls_passes busy ms
  have hcount (r : RegistryId) : Engine.ByCalls busy ms (countEdges r).run :=
    .assembly_get_bind fun _ => hP.assembly.pure _
  refine hP.assembly.bind (hP.lift e.byCalls_eval) fun v => ?_
  cases route with
  | direct => exact hP.assembly.bind (Builder.byCalls_register hm hi v) fun _ => hcount _
  | bag =>
    refine hP.assembly.bind (Builder.byCalls_registerByBag hm hi v) fun r => ?_
    cases r with
    | some _ => exact hcount _
    | none => exact hP.assembly.pure _

/-- A step that changes nothing about the builder it works on is a sequence of calls. -/
lemma byCalls_runPlain (step : Step) : Engine.ByCalls busy ms (runPlain m.builder step).run := by
  have hP := Engine.byCalls_passes busy ms
  have hQ := hP.assembly
  have hanswer (name : Option String) (v : Value) :
      Engine.ByCalls busy ms (liftM (answerValue name v) : Assembly Answer).run :=
    hP.lift (byCalls_answerValue name v)
  cases step with
  | value name e => exact hQ.bind (hP.lift e.byCalls_eval) (hanswer name)
  | resolve name d args next =>
    refine hQ.bind (hP.lift d.byCalls_eval) fun d =>
      hQ.bind (hP.lift (byCalls_evalAll args)) fun args => ?_
    cases next with
    | none => exact byCalls_runResolve name d args none
    | some n =>
      exact hQ.bind (hP.lift (hP.bind n.byCalls_eval fun v => hP.pure (some v))) fun n =>
        byCalls_runResolve name d args n
  | apply name index next =>
    refine hQ.bind (hP.lift next.byCalls_eval) fun next => ?_
    split
    · exact hQ.bind (Stage.byCalls_apply _ next) (hanswer name)
    · exact hQ.pure _
  | add e route => exact byCalls_runAdd hm hi e route
  | edges => exact .assembly_get_bind fun _ => hQ.pure _
  | accepts e => exact hQ.bind (hP.lift e.byCalls_eval) fun _ =>
    .assembly_get_bind fun _ => hQ.pure _
  | convert name e target registry =>
    refine hQ.bind (hP.lift e.byCalls_eval) fun v => ?_
    have hconvert := hQ.bind (Builder.byCalls_convert hm hi registry v target) (hanswer name)
    rwa [bind_assoc] at hconvert
  | buildValue name target => exact hQ.bind (Builder.byCalls_buildValue hm hi target) (hanswer name)
  | build name type => exact hQ.bind (Builder.byCalls_build hm hi type) fun c => hanswer name _
  | call var env =>
    refine hQ.bind (hP.lift (byCalls_lookup var)) fun v => ?_
    split
    · exact hQ.pure _
    · exact hQ.pure _
    · exact .assembly_get_bind fun _ => hQ.pure _
  | callNum var xs =>
    refine hQ.bind (hP.lift (byCalls_lookup var)) fun v => ?_
    split
    · next n _ => exact hQ.bind (hQ.mapM xs fun x => hP.lift (n.byCalls_eval x)) fun _ => hQ.pure _
    · exact hQ.pure _
  | stages => exact hQ.pure _
  | debug => exact .assembly_get_bind fun _ => hQ.pure _
  | property p => exact hP.lift (byCalls_runProperty hm hi p)
  | metrics => exact .assembly_get_bind fun _ => hQ.pure _
  | logs => exact .of_call .takeEvents nofun fun _ => rfl
  | inspect e fits satisfies types =>
    exact hQ.bind (hP.lift e.byCalls_eval) fun v =>
      hP.lift (byCalls_runInspect v fits satisfies types)
  | invoke name e args =>
    exact hQ.bind (hP.lift e.byCalls_eval) fun v =>
      hQ.bind (hP.lift (byCalls_evalAll args)) fun args =>
        hQ.bind (v.byCalls_invoke args) (hanswer name)
  | construct name e args =>
    exact hQ.bind (hP.lift e.byCalls_eval) fun v =>
      hQ.bind (hP.lift (byCalls_evalAll args)) fun args => byCalls_runConstruct name v args
  | arguments args fits extract front index =>
    refine hQ.bind (hP.lift (byCalls_evalAll args)) fun args => ?_
    cases front with
    | none => exact hP.lift (byCalls_runArguments args fits extract none index)
    | some e =>
      exact hQ.bind (hP.lift (hP.bind e.byCalls_eval fun v => hP.pure (some v))) fun front =>
        hP.lift (byCalls_runArguments args fits extract front index)
  | operation e name args =>
    exact hQ.bind (hP.lift e.byCalls_eval) fun v =>
      hQ.bind (hP.lift (byCalls_evalAll args)) fun args =>
        hP.lift (byCalls_runOperations v name args)
  | _ => exact hQ.pure _

end Builder

end Session

end Pipework
