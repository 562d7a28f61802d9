import Pipework.Proofs.App.Layer
import Pipework.Proofs.Conversion.Builtin

set_option autoImplicit false

/-!
# The layer that a stage puts around an app

There are five ways to write a stage that puts a layer around the next app. A function returns an
app around it, and so does a layer that is used as a stage, and an operation of a component. A
component that is told the next app, and one that is made from it, keep the next app in their state,
and their `Invoke` operation finds it there when a request comes.

## Main definitions

* `Stage.Layers` — the layer that a stage puts around the next app.
* `Made` — a value that stands for the next app with the layer around it.

## Main results

* `Func.exec_run_app`, `Func.heldApp_run`, `ComponentType.exec_make` — what calls do with the next
  app.
* `Stage.exec_apply_of_layers` — a stage of any of the five ways makes such a value.
-/

namespace Pipework

/-! ## What calls do with the next app -/

/-- Arguments are held as they are. -/
lemma content_hold (args : List Content) (s : State) :
    ((hold args).exec s).1.map Held.content = args := by
  induction args generalizing s with
  | nil => rfl
  | cons c cs ih =>
    unfold hold at ih ⊢
    rw [List.mapM_cons]
    exact congrArg (c :: ·) (ih _)

/-- Among arguments that begin with an app, that one is found. -/
lemma app_hold (form : AppForm) (a : App) (cs : List Content) (s : State) :
    ((hold (.app form a :: cs)).exec s).1.findSome? (fun h => h.content.app?) = some a := by
  have h := content_hold (.app form a :: cs) s
  generalize ((hold (.app form a :: cs)).exec s).1 = held at h
  cases held with
  | nil => cases h
  | cons first rest =>
    obtain ⟨hfirst, -⟩ := List.cons.inj h
    simp [hfirst, Content.app?]

namespace Func

variable {f : Func} (form : AppForm) (a : App) (cs : List Content)

/-- A function that returns an app puts its layer around the next one. -/
lemma exec_run_app {form' : AppForm} (hout : f.out = .app form') (owner : Option CellId)
    (s : State) :
    ∃ held s', (f.run owner (.app form a :: cs)).exec s =
      (form'.wrap (.over ⟨callLine f.label held, f.acts⟩ a), s') := by
  refine ⟨((hold (.app form a :: cs)).exec s).1, ((f.run owner (.app form a :: cs)).exec s).2, ?_⟩
  refine Prod.ext ?_ rfl
  simp only [run, Engine.exec_bind, hout, result, app_hold]
  cases owner <;> rfl

/-- An operation that keeps what it is told makes the next app the one that its component holds,
whatever its result is. -/
lemma heldApp_run {c : CellId} {s : State} (hc : c < s.cells.length) :
    ((f.run (some c) (.app form a :: cs)).exec s).2.heldApp c = some a := by
  have happ := app_hold form a cs s
  have hframe : State.Frame ∅ s ((f.effects (callLine f.label
      ((hold (.app form a :: cs)).exec s).1)).exec ((hold (.app form a :: cs)).exec s).2).2 :=
    (frames_hold _ s).trans (f.frames_effects _ _)
  simp only [run, Engine.exec_bind]
  generalize ((hold (.app form a :: cs)).exec s).1 = held at happ hframe ⊢
  generalize (f.effects (callLine f.label held)).exec _ = effected at hframe ⊢
  have hlt := hc.trans_le hframe.length_cells_le
  -- the result may be a new component, which leaves the others alone
  have hresult : State.Frame ∅ ((Engine.setCell c held).exec effected.2).2 _ :=
    (f.composed_result (callLine f.label held) held).frames _
  rw [State.heldApp, State.cell, hresult.cell_eq c (by simpa using hlt) id]
  simpa [hlt] using happ

end Func

/-- A component that is made from the next app holds it. -/
lemma ComponentType.exec_make (cls : Nat) (label : String) (ops : List Op)
    (ctors : List (List Shape)) (form : AppForm) (a : App) (cs : List Content) (s : State) :
    ∃ c s', ((ComponentType.crafted cls label ops ctors).make (.app form a :: cs)).exec s =
        (.crafted cls label ops none c, s') ∧
      s.cells.length ≤ c ∧ c < s'.cells.length ∧ s'.heldApp c = some a := by
  have happ := app_hold form a cs s
  have hframe : State.Frame ∅ s _ := frames_hold (.app form a :: cs) s
  have hle := hframe.length_cells_le
  rcases hhold : (hold (.app form a :: cs)).exec s with ⟨held, s₁⟩
  rw [hhold] at happ hle
  refine ⟨s₁.cells.length, { s₁ with
    calls := s₁.calls ++ [callLine ("new " ++ label) held]
    cells := s₁.cells ++ [held] }, ?_, hle, by simp, ?_⟩
  · simp only [ComponentType.make, Engine.exec_bind, hhold]
    rfl
  · simpa [State.heldApp, State.cell] using happ

/-! ## Stages that put a layer around the next app -/

/-- The first `Invoke` operation whose handle is a function of the environment. -/
def invokeOp? (ops : List Op) : Option Op :=
  ops.find? fun op => op.name = invokeName && op.shape = .appFunc

/-- By such an operation a component is bound to an app. -/
lemma boundInvoke?_of_invokeOp? {ops : List Op} {name : String} {l : Layer}
    (h : invokeOp? ops = some (.app name .func l)) (cls : Nat) (label : String)
    (callable : Option Value) (cell : CellId) :
    boundInvoke? (.component (.crafted cls label ops callable cell)) (.object .appFunc) =
      some (.bound (.app .func (.resumed l cell))) := by
  have hagrees : ∀ op : Op, ((op.bind cell).convention.isCallable &&
      (op.bind cell).convention.agrees (.object .appFunc)) = decide (op.shape = .appFunc) := by
    intro op
    rw [Operation.convention, Op.shape_bind]
    by_cases hs : op.shape = .appFunc
    · rw [hs]
      rfl
    · simp [Convention.agrees, hs]
  have hfind : ((ops.map (Op.bind cell)).filter fun o => o.name = invokeName).find? (fun o =>
      o.convention.isCallable && o.convention.agrees (.object .appFunc)) =
      (invokeOp? ops).map (Op.bind cell) := by
    rw [List.find?_filter, List.find?_map, invokeOp?]
    congr 2
    funext op
    simp only [Function.comp_apply, hagrees, Op.name_bind]
    simp
  unfold boundInvoke?
  simp only [Value.component?, Option.bind_some, Instance.named, Instance.operations]
  rw [hfind, h]
  rfl

namespace Stage

/-- A stage puts a layer around the next app. The layer of a function is called like the call that
returned it, and a component has the layer of its `Invoke` operation. -/
inductive Layers (st : Stage) : Layer → Prop
  | callable {f : Func} {owner : Option CellId} {form : AppForm} (held : List Held)
      (h : st.factory = .callable (.func f owner)) (hout : f.out = .app form)
      (hform : form ≠ .legacy) : Layers st ⟨callLine f.label held, f.acts⟩
  | object {l : Layer} (h : st.factory = .callable (.layer l)) : Layers st l
  | invoke {f : Func} {owner : Option CellId} {form : AppForm} (held : List Held)
      (h : st.factory = .invoke (.func f owner)) (hout : f.out = .app form)
      (hform : form ≠ .legacy) : Layers st ⟨callLine f.label held, f.acts⟩
  | told {f : Func} {cls : Nat} {label name : String} {ops : List Op} {callable : Option Value}
      {cell : CellId} {l : Layer} (h : st.factory = .told (.func f (some cell))
        (.component (.crafted cls label ops callable cell)))
      (hop : invokeOp? ops = some (.app name .func l)) : Layers st l
  | construct {cls : Nat} {label name : String} {ops : List Op} {ctors : List (List Shape)}
      {params : List Shape} {l : Layer}
      (h : st.factory = .construct (.crafted cls label ops ctors) params)
      (hop : invokeOp? ops = some (.app name .func l)) : Layers st l

/-- The cell of the component that a stage tells of the next app. -/
def cell? (st : Stage) : Option CellId :=
  match st.factory with
  | .told _ (.component (.crafted _ _ _ _ cell)) => some cell
  | _ => none

end Stage

/-- A value stands for a layer around the app `inner`. The layer finds that app in the cells `cs`,
if it does not have it itself. -/
inductive Made (s : State) (l : Layer) (inner : App) : List CellId → Value → Prop
  | around {v : Value} {a : App} (hv : v.StandsFor a)
      (ha : ∀ held depth, a.run held depth = (App.over l inner).run held depth) :
      Made s l inner [] v
  | resumed {v : Value} {c : CellId} (hv : v.StandsFor (.resumed l c))
      (hlt : c < s.cells.length) (hheld : s.heldApp c = some inner) : Made s l inner [c] v

/-- An app in the type that a function returns. -/
lemma Made.of_wrap {s : State} {form : AppForm} (hform : form ≠ .legacy) (l : Layer) (inner : App) :
    Made s l inner [] (.data (form.wrap (.over l inner))) := by
  cases form with
  | func => exact .around (.app hform rfl) fun _ _ => rfl
  | object => exact .around (.app hform rfl) fun held depth => App.run_delegate held depth _
  | legacy => exact absurd rfl hform

namespace Stage

variable {st : Stage} (hst : st.Sound)
  (hargs : List.Forall₂ Value.Gives st.args st.factory.params.tail) {next : Value} {form : AppForm}
  {a : App} (hnext : next.content? = some (.app form a))
  (hshape : next.shape = st.convention.handle)
include hst hargs hnext hshape

/-- The next app is the first content that a stage is given. -/
lemma exists_extractAll :
    ∃ cs, extractAll st.factory.params (next :: st.args) = .ok (.app form a :: cs) ∧
      Typed cs st.factory.params.tail := by
  obtain ⟨p, ps, hparams, -⟩ := exists_params hst.fits
  have hp : p = form.shape := by
    rw [Value.shape_of_mem_content? hnext |>.symm, hst.convention_eq, hparams] at hshape
    exact hshape.symm
  rw [hparams] at hargs ⊢
  rw [hp]
  exact extractAll_app hnext hargs

/-- A function that a stage calls returns its layer around the next app. -/
lemma exec_invoke_app {f : Func} {owner : Option CellId}
    (hf : st.factory.params = Routine.params (.func f owner)) {form' : AppForm}
    (hout : f.out = .app form') (hform : form' ≠ .legacy) (s : State) :
    ∃ made s' held, (Routine.invoke (.func f owner) (next :: st.args)).exec s = (.ok made, s') ∧
      Made s' ⟨callLine f.label held, f.acts⟩ a [] made := by
  obtain ⟨cs, hcs, -⟩ := exists_extractAll hst hargs hnext hshape
  obtain ⟨held, s', hrun⟩ := Func.exec_run_app form a cs hout owner s
  refine ⟨_, s', held, ?_, .of_wrap hform _ _⟩
  rw [Routine.exec_invoke (hf ▸ hcs), Routine.run, hrun]

/-- What a stage of any of the five ways makes stands for its layer around the next app. The layer
has the next app itself, or finds it in the cell of the component that the stage tells, or in a new
one.

**Proof sketch.** One case for each way. A function and a layer make the app itself. A component
that is told keeps the app in its cell, and one that is made from it in a new cell. -/
lemma exec_apply_of_layers {l₀ : Layer} (hl : st.Layers l₀) {s : State}
    (hcell : ∀ c, st.cell? = some c → c < s.cells.length) :
    ∃ made s' l cs, (st.apply next).exec s = (.ok made, s') ∧ st.Layers l ∧ l.acts = l₀.acts ∧
      Made s' l a cs made ∧ ∀ c ∈ cs, st.cell? = some c ∨ s.cells.length ≤ c := by
  cases hl with
  | callable held h hout hform =>
    obtain ⟨made, s', held', hexec, hmade⟩ :=
      exec_invoke_app hst hargs hnext hshape (by rw [h]; rfl) hout hform s
    refine ⟨made, s', _, [], ?_, .callable held' h hout hform, rfl, hmade, nofun⟩
    rw [apply, h]
    exact hexec
  | object h =>
    have hfunc : form = .func := by
      rw [← Value.shape_of_mem_content? hnext, hst.convention_eq, h] at hshape
      cases form with
      | func => rfl
      | object => cases hshape
      | legacy => cases hshape
    obtain ⟨cs, hcs, ht⟩ := exists_extractAll hst hargs hnext hshape
    rw [h] at hcs ht
    obtain rfl : cs = [] := List.eq_nil_of_length_eq_zero ht.length_eq
    subst hfunc
    have hexec := Routine.exec_invoke (r := .layer l₀) hcs s
    have hlegacy : AppForm.func ≠ .legacy := nofun
    refine ⟨.data (.app .func (.over l₀ a)), s, l₀, [], ?_, .object h, rfl,
      .of_wrap hlegacy _ _, nofun⟩
    rw [apply, h]
    exact hexec
  | invoke held h hout hform =>
    obtain ⟨made, s', held', hexec, hmade⟩ :=
      exec_invoke_app hst hargs hnext hshape (by rw [h]; rfl) hout hform s
    refine ⟨made, s', _, [], ?_, .invoke held' h hout hform, rfl, hmade, nofun⟩
    rw [apply, h]
    exact hexec
  | @told f cls label name ops callable cell _ h hop =>
    obtain ⟨cs, hcs, -⟩ := exists_extractAll hst hargs hnext hshape
    have hc : st.cell? = some cell := by rw [cell?, h]
    have hlt := hcell cell hc
    have hheld := Func.heldApp_run (f := f) form a cs hlt
    have hle := (f.frames_run (some cell) (.app form a :: cs) s).length_cells_le
    have hbound := boundInvoke?_of_invokeOp? hop cls label callable cell
    rw [h] at hcs
    have hexec := Routine.exec_invoke (r := .func f (some cell)) hcs s
    refine ⟨.component (.crafted cls label ops callable cell), _, l₀, [cell], ?_, .told h hop, rfl,
      .resumed (.component hbound) (hlt.trans_le hle) hheld, by simpa using .inl hc⟩
    rw [apply, h]
    dsimp only
    rw [Assembly.discard_bind, Assembly.exec_bind_ok hexec]
    rfl
  | @construct cls label name ops ctors params _ h hop =>
    obtain ⟨cs, hcs, -⟩ := exists_extractAll hst hargs hnext hshape
    obtain ⟨c, s', hmake, hle, hlt, hheld⟩ :=
      ComponentType.exec_make cls label ops ctors form a cs s
    have hbound := boundInvoke?_of_invokeOp? hop cls label none c
    rw [h] at hcs
    have hparams : extractAll params (next :: st.args) = .ok (.app form a :: cs) := hcs
    refine ⟨.component (.crafted cls label ops none c), s', l₀, [c], ?_, .construct h hop, rfl,
      .resumed (.component hbound) hlt hheld, by simpa using .inr hle⟩
    rw [apply, h]
    dsimp only
    rw [ComponentType.exec_constructWith hparams, hmake]

end Stage

namespace Stage

/-- The component that such a stage tells of the next app keeps it. -/
lemma mem_touches_of_cell? {st : Stage} {l : Layer} (hl : st.Layers l) {c : CellId}
    (hc : st.cell? = some c) : c ∈ st.factory.touches := by
  unfold cell? at hc
  cases hl with
  | told h hop =>
    rw [h] at hc ⊢
    exact hc
  | callable held h hout hform | object h | invoke held h hout hform | construct h hop =>
    rw [h] at hc
    cases hc

/-- The layer of a function that a stage calls has the actions that the function has. -/
lemma Layers.acts_eq {st : Stage} {l : Layer} (hl : st.Layers l) {f : Func} {owner : Option CellId}
    (h : st.factory = .callable (.func f owner)) : l.acts = f.acts := by
  cases hl with
  | callable held h' hout hform =>
    cases h'.symm.trans h
    rfl
  | object h' | invoke held h' hout hform | told h' hop | construct h' hop =>
    cases h'.symm.trans h

/-- The layer of a component that a stage makes is the one of its `Invoke` operation. -/
lemma Layers.eq_of_construct {st : Stage} {l l' : Layer} (hl : st.Layers l) {cls : Nat}
    {label name : String} {ops : List Op} {ctors : List (List Shape)} {params : List Shape}
    (h : st.factory = .construct (.crafted cls label ops ctors) params)
    (hop : invokeOp? ops = some (.app name .func l')) : l = l' := by
  cases hl with
  | construct h' hop' =>
    cases h'.symm.trans h
    cases hop'.symm.trans hop
    rfl
  | callable held h' hout hform | object h' | invoke held h' hout hform | told h' hop' =>
    cases h'.symm.trans h

/-- Two stages keep out of each other's components: neither of them replaces the state of the
component that the other one tells of the next app. -/
def Separate (st st' : Stage) : Prop :=
  (∀ c, st.cell? = some c → c ∉ st'.factory.touches) ∧
    ∀ c, st'.cell? = some c → c ∉ st.factory.touches

/-- Keeping apart is symmetric. -/
lemma Separate.symm {st st' : Stage} (h : st.Separate st') : st'.Separate st := ⟨h.2, h.1⟩

/-- A stage that wraps apps: it was resolved, it declares one of the two types of apps, and its
layer calls the next app. None of its parameters is for a component type, which cannot be
given. -/
structure Wraps (st : Stage) : Prop where
  resolved : st.Resolved
  convention : ∃ form : AppForm, form ≠ .legacy ∧ st.convention.handle = form.shape
  params : .atom .componentType ∉ st.factory.params
  layers : ∃ l, st.Layers l ∧ l.IsWrapper

/-- The extra arguments of such a stage can be given. -/
lemma Wraps.gives {st : Stage} (h : st.Wraps) :
    List.Forall₂ Value.Gives st.args st.factory.params.tail := by
  obtain ⟨p, ps, hparams, hfits⟩ := exists_params h.resolved.sound.fits
  have hnot := h.params
  rw [hparams] at hnot ⊢
  exact Args.gives_of_fits hfits (.inr fun hm => hnot (List.mem_cons_of_mem _ hm))

/-- The stage of a function that wraps an app wraps apps. -/
lemma wrapping_wraps (label : String) (n : UInt32) : (wrapping label n).Wraps where
  resolved := wrapping_resolved label n
  convention := ⟨.object, nofun, rfl⟩
  params := (by decide : Shape.atom .componentType ∉ [Shape.dynApp, .u32])
  layers := ⟨_, .callable [] rfl rfl nofun, Layer.isWrapper_of_none rfl⟩

/-- So does that of a function that registers a conversion. -/
lemma registering_wraps (label : String) : (registering label).Wraps where
  resolved := registering_resolved label
  convention := ⟨.func, nofun, rfl⟩
  params := (by decide : Shape.atom .componentType ∉ [Shape.appFunc])
  layers := ⟨_, .callable [] rfl rfl nofun, Layer.isWrapper_of_none rfl⟩

/-- So does that of a layer that calls the app behind it. -/
lemma layered_wraps {l : Layer} (hl : l.IsWrapper) : (layered l).Wraps where
  resolved := layered_resolved l
  convention := ⟨.func, nofun, rfl⟩
  params := (by decide : Shape.atom .componentType ∉ [Shape.appFunc])
  layers := ⟨l, .object rfl, hl⟩

/-- So does that of a component with an operation for the next app. -/
lemma invoking_wraps (label : String) (cell : CellId) : (invoking label cell).Wraps where
  resolved := invoking_resolved label cell
  convention := ⟨.func, nofun, rfl⟩
  params := (by decide : Shape.atom .componentType ∉ [Shape.appFunc])
  layers := ⟨_, .invoke [] rfl rfl nofun, Layer.isWrapper_of_none rfl⟩

/-- So does that of a component that is told the next app. -/
lemma wired_wraps (label : String) (cell : CellId) : (wired label cell).Wraps where
  resolved := wired_resolved label cell
  convention := ⟨.func, nofun, rfl⟩
  params := (by decide : Shape.atom .componentType ∉ [Shape.appFunc])
  layers := ⟨⟨label, none⟩, .told rfl rfl, Layer.isWrapper_of_none rfl⟩

/-- So does that of a component type. -/
lemma constructing_wraps (label : String) : (constructing label).Wraps where
  resolved := constructing_resolved label
  convention := ⟨.object, nofun, rfl⟩
  params := (by decide : Shape.atom .componentType ∉ [Shape.dynApp])
  layers := ⟨⟨label, none⟩, .construct rfl rfl, Layer.isWrapper_of_none rfl⟩

end Stage

end Pipework
