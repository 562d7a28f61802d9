import Pipework.Proofs.Conversion.Outline
import Pipework.Proofs.Stage.Choice

set_option autoImplicit false

/-!
# What a stage makes

A stage that has been resolved has room for the next app, and its extra arguments fit. It can
therefore not fail on a next app of its convention, and the outline of what it makes is known before
it is applied, because the operations of a component do not depend on its state.

## Main definitions

* `Stage.Resolved` — the stages that can come about.
* `Factory.params`, `Factory.output` — the parameters of a stage and the outline of what it makes.

## Main results

* `Value.outline_crafted`, `Value.outline_mount` — the outline of a component is that of its type.
* `Stage.Resolved.sound` — what has been checked of a resolved stage.
* `Stage.apply_yields` — a stage does not fail on an app of its convention.
-/

namespace Pipework

/-! ## Components by their types -/

/-- The shape of an operation. -/
def Op.shape : Op → Shape
  | .call _ f _ _ => f.shape
  | .app _ form _ => form.shape
  | .num _ _ _ => .numFn

/-- The operation of a component keeps its name. -/
@[simp] lemma Op.name_bind (cell : CellId) (op : Op) : (op.bind cell).name = op.name := by
  cases op with
  | call name f invocable keeps => cases invocable <;> rfl
  | app name form layer => rfl
  | num name label invocable => cases invocable <;> rfl

/-- The shape of an operation does not depend on the state of the component. -/
@[simp] lemma Op.shape_bind (cell : CellId) (op : Op) : (op.bind cell).value.shape = op.shape := by
  cases op with
  | call name f invocable keeps => cases invocable <;> rfl
  | app name form layer => exact form.shape_wrap _
  | num name label invocable => cases invocable <;> rfl

/-- The handles of the callable `Invoke` operations among some operations. -/
def invokeShapes (ops : List Op) : List Shape :=
  ((ops.filter fun op => op.name = invokeName).map Op.shape).filter fun s =>
    (Convention.ofShape s).isCallable

/-- The outline of the components of a type. -/
def ComponentType.outline : ComponentType → Outline
  | .crafted cls _ ops _ => ⟨.atom (.component cls), invokeShapes ops⟩
  | .mount => ⟨.atom .mapMiddleware, [.appFunc]⟩

/-- A component written by a program has the outline that its operations tell. -/
lemma Value.outline_crafted (cls : Nat) (label : String) (ops : List Op) (callable : Option Value)
    (cell : CellId) :
    (Value.component (.crafted cls label ops callable cell)).outline =
      ⟨.atom (.component cls), invokeShapes ops⟩ := by
  have hshape : (Value.component (.crafted cls label ops callable cell)).shape =
      .atom (.component cls) := rfl
  simp only [Value.outline, hshape, Value.invokes, Value.component?, Option.map_some,
    Option.getD_some, Instance.named, Instance.operations, List.filter_map, List.map_map,
    invokeShapes]
  simp [Function.comp_def, Operation.convention]

/-- A mount has the outline of its component type. -/
lemma Value.outline_mount (path : String) (branch next : App) :
    (Value.component (.mount path branch next)).outline = ComponentType.outline .mount := rfl

/-- Making a component does not fail, and the component has the outline of its type. -/
lemma ComponentType.outline_make (t : ComponentType) (args : List Content) (s : State) :
    (Value.component ((t.make args).exec s).1).outline = t.outline := by
  unfold ComponentType.make
  split
  · exact Value.outline_crafted _ _ _ _ _
  · exact Value.outline_mount _ _ _
  · exact Value.outline_mount _ _ _

/-! ## Stages -/

namespace Factory

/-- The parameters of what makes the wrapped app. The first one is for the next app. -/
def params : Factory → List Shape
  | .callable r => r.params
  | .told r _ => r.params
  | .invoke r => r.params
  | .construct _ params => params

/-- The outline of what is made. -/
def output : Factory → Outline
  | .callable r => .plain r.out
  | .told _ component => component.outline
  | .invoke r => .plain r.out
  | .construct t _ => t.outline

end Factory

namespace Stage

/-- The stages that values describe. -/
def Resolved (st : Stage) : Prop := ∃ v args, resolve v args = .ok st

/-- What has been checked of a stage. -/
structure Sound (st : Stage) : Prop where
  fits : fitsNextAnd st.factory.params st.args = true
  convention_eq : st.convention = nextConvention st.factory.params
  told_component : ∀ r v, st.factory = .told r v → v.isComponentType = false

/-- Parameters with room for the next app have a first one for it, and the others fit. -/
lemma exists_params {params : List Shape} {args : Args} (h : fitsNextAnd params args = true) :
    ∃ p ps, params = p :: ps ∧ args.fits ps = true := by
  cases params with
  | nil => cases h
  | cons p ps => exact ⟨p, ps, rfl, h⟩

/-- What has been checked of a resolved stage. -/
lemma Resolved.sound {st : Stage} (h : st.Resolved) : st.Sound := by
  obtain ⟨v, args, h⟩ := h
  have sound {next : Shape} {params : List Shape} (htakes : TakesNext next params args) :
      fitsNextAnd params args = true ∧ Convention.object next = nextConvention params :=
    ⟨fitsNextAnd_iff.2 ⟨next, htakes⟩, (nextConvention_of_takesNext htakes).symm⟩
  cases describes_of_resolve h with
  | callable hacts htakes =>
    obtain ⟨hfits, hconvention⟩ := sound htakes
    exact ⟨hfits, hconvention, nofun⟩
  | told hv hcallable hserves =>
    obtain ⟨hfits, hconvention⟩ := sound (takesNext_of_serves hserves)
    refine ⟨hfits, hconvention, ?_⟩
    rintro _ _ ⟨⟩
    rw [hv]
    rfl
  | invoke hv hcallable htold hserves =>
    obtain ⟨hfits, hconvention⟩ := sound (takesNext_of_serves hserves)
    exact ⟨hfits, hconvention, nofun⟩
  | construct hv hbuilds =>
    obtain ⟨-, -, -, htakes, -⟩ := hbuilds
    obtain ⟨hfits, hconvention⟩ := sound htakes
    exact ⟨hfits, hconvention, nofun⟩

section Apply

variable {st : Stage} (hst : st.Sound)
include hst

/-- The next app fills the first parameter, and the extra arguments fill the others. -/
lemma gives_next (hargs : List.Forall₂ Value.Gives st.args st.factory.params.tail) {next : Value}
    (hshape : next.shape = st.convention.handle) (hnext : next.isComponentType = false) :
    List.Forall₂ Value.Gives (next :: st.args) st.factory.params := by
  obtain ⟨p, ps, hparams, -⟩ := exists_params hst.fits
  rw [hst.convention_eq, hparams] at hshape
  rw [hparams] at hargs ⊢
  exact .cons (.inr ⟨hshape, hnext⟩) hargs

/-- Extra arguments that are no component types fill their parameters. -/
lemma gives_args (hargs : ∀ v ∈ st.args, v.isComponentType = false) :
    List.Forall₂ Value.Gives st.args st.factory.params.tail := by
  obtain ⟨p, ps, hparams, hfits⟩ := exists_params hst.fits
  rw [hparams]
  exact Args.gives_of_fits hfits (.inl hargs)

/-- A stage does not fail on an app of its convention, and the outline of what it makes is
known. -/
lemma apply_yields (hargs : List.Forall₂ Value.Gives st.args st.factory.params.tail)
    {next : Value} (hshape : next.shape = st.convention.handle)
    (hnext : next.isComponentType = false) :
    (st.apply next).Yields fun out =>
      out.outline = st.factory.output ∧ out.isComponentType = false := by
  have hgives := gives_next hst hargs hshape hnext
  have hinvoke (r : Routine) (hr : r.params = st.factory.params) :
      (r.invoke (next :: st.args)).Yields fun out =>
        out.outline = .plain r.out ∧ out.isComponentType = false := by
    rw [← hr] at hgives
    refine (Routine.invoke_yields hgives).mono ?_
    rintro _ ⟨c, rfl, hc⟩
    rw [← hc]
    exact ⟨rfl, rfl⟩
  have htold := hst.told_component
  unfold apply
  cases hf : st.factory with
  | callable r => exact hinvoke r (by rw [hf]; rfl)
  | told r component =>
    dsimp only
    rw [Assembly.discard_bind]
    exact (hinvoke r (by rw [hf]; rfl)).bind fun _ _ => .pure ⟨rfl, htold r component hf⟩
  | invoke r => exact hinvoke r (by rw [hf]; rfl)
  | construct t params =>
    rw [hf] at hgives
    obtain ⟨cs, hcs, -⟩ := extractAll_of_gives hgives
    intro s
    refine ⟨.component ((t.make cs).exec s).1, ((t.make cs).exec s).2, ?_,
      t.outline_make cs s, rfl⟩
    have hparams : extractAll params (next :: st.args) = .ok cs := hcs
    dsimp only
    rw [ComponentType.constructWith, hparams, Assembly.exec_bind_ok (Assembly.exec_ofExcept _ s),
      Assembly.exec_lift_bind]
    rfl

end Apply

/-! ## A stage for each way to write one -/

/-- A function that wraps an object, and whose extra argument is a number. -/
def wrapping (label : String) (n : UInt32) : Stage where
  convention := .object .dynApp
  factory := .callable (.func (.mk [.dynApp, .u32] (.app .func) label none [] []) none)
  args := [.data (.datum (.u32 n))]
  kind := .callableFactory
  description := "callable fn(DynApp, u32) -> AppFunc"

/-- The stage of a function that wraps an app comes from a value. -/
lemma wrapping_resolved (label : String) (n : UInt32) : (wrapping label n).Resolved :=
  ⟨.callable (.func (.mk [.dynApp, .u32] (.app .func) label none [] []) none),
    [.data (.datum (.u32 n))], rfl⟩

/-- A layer that is used as a stage. -/
def layered (l : Layer) : Stage where
  convention := .object .appFunc
  factory := .callable (.layer l)
  args := []
  kind := .callableFactory
  description := "callable fn(AppFunc) -> AppFunc"

/-- The stage of a layer comes from a value. -/
lemma layered_resolved (l : Layer) : (layered l).Resolved := ⟨.callable (.layer l), [], rfl⟩

/-- A component with an operation that returns the wrapped app, and keeps the next one as well. -/
def invoking (label : String) (cell : CellId) : Stage where
  convention := .object .appFunc
  factory := .invoke (.func (.mk [.appFunc] (.app .object) label none [] []) (some cell))
  args := []
  kind := .instanceWithInvoke
  description := "component Comp<0>"

/-- The stage of a component with an operation for the next app comes from a value. -/
lemma invoking_resolved (label : String) (cell : CellId) : (invoking label cell).Resolved :=
  ⟨.component (.crafted 0 label
    [.call invokeName (.mk [.appFunc] (.app .object) label none [] []) true true] none cell), [],
    rfl⟩

/-- The operations of a component that is told the next app and stands for the wrapped app. -/
def wiredOps (label : String) : List Op :=
  [.func initializeName (.mk [.appFunc] .unit label none [] []) true,
    .app invokeName .func ⟨label, none⟩]

/-- A component that is told the next app. -/
def wired (label : String) (cell : CellId) : Stage where
  convention := .object .appFunc
  factory := .told (.func (.mk [.appFunc] .unit label none [] []) (some cell))
    (.component (.crafted 0 label (wiredOps label) none cell))
  args := []
  kind := .instanceWithInitializer
  description := "component Comp<0>"

/-- The stage of a component that is told the next app comes from a value. -/
lemma wired_resolved (label : String) (cell : CellId) : (wired label cell).Resolved :=
  ⟨.component (.crafted 0 label (wiredOps label) none cell), [], rfl⟩

/-- A component type of which a component is made from the next app. -/
def constructing (label : String) : Stage where
  convention := .object .dynApp
  factory := .construct (.crafted 0 label [.app invokeName .func ⟨label, none⟩] [[.dynApp]])
    [.dynApp]
  args := []
  kind := .constructibleComponent
  description := "component type Comp<0>"

/-- The stage of a component type comes from a value. -/
lemma constructing_resolved (label : String) : (constructing label).Resolved :=
  ⟨.componentType (.crafted 0 label [.app invokeName .func ⟨label, none⟩] [[.dynApp]]), [], rfl⟩

/-- A function that wraps an app, and that registers another way to make an object of an app. -/
def registering (label : String) : Stage where
  convention := .object .appFunc
  factory := .callable (.func (.mk [.appFunc] (.app .func) label none
    [.mk [.appFunc] (.app .object) "c" none [] []] []) none)
  args := []
  kind := .callableFactory
  description := "callable fn(AppFunc) -> AppFunc"

/-- The stage of a function that registers a conversion comes from a value. -/
lemma registering_resolved (label : String) : (registering label).Resolved :=
  ⟨.callable (.func (.mk [.appFunc] (.app .func) label none
    [.mk [.appFunc] (.app .object) "c" none [] []] []) none), [], rfl⟩

/-- A function whose extra argument is a component type. -/
def asking : Stage where
  convention := .object .appFunc
  factory :=
    .callable (.func (.mk [.appFunc, .atom .componentType] (.app .func) "w" none [] []) none)
  args := [.componentType (.crafted 0 "x" [] [[.appFunc]])]
  kind := .callableFactory
  description := "callable fn(AppFunc, ComponentType) -> AppFunc"

end Stage

/-- A state with one bag, one registry with the built-in conversions, and components that hold
nothing. -/
def State.fresh (components : Nat) : State :=
  { State.initial with
    bags := [Builder.seededBag State.rootRegistry]
    registries := [.builtin]
    cells := List.replicate components [] }

end Pipework
