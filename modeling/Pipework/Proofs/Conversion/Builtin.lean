import Pipework.Proofs.Conversion.Plan
import Pipework.Proofs.Engine.Frame
import Pipework.Proofs.Stage.Output

set_option autoImplicit false

/-!
# The built-in conversions

With the two conversions of a new registry, every value that stands for an app comes to whichever of
the two types of apps is asked for, and the app keeps its behaviour.

## Main definitions

* `Value.StandsFor` — a value that is an app, or a component that has one as its `Invoke` operation.
* `Value.Presents` — a value that is an app of a given type and behaviour.
* `Outline.Takes` — the trail that a conversion takes without any in vain.

## Main results

* `convertIn_of_standsFor` — the conversion of such a value.
-/

namespace Pipework

/-- A value that is an app of one of the two types between which the built-in conversions lead, or a
component that is bound to an app. -/
inductive Value.StandsFor : Value → App → Prop
  | app {v : Value} {form : AppForm} {a : App} (hform : form ≠ .legacy)
      (h : v.content? = some (.app form a)) : StandsFor v a
  | component {i : Instance} {a : App}
      (h : boundInvoke? (.component i) (.object .appFunc) = some (.bound (.app .func a))) :
      StandsFor (.component i) a

/-- A value that is an app has the outline of plain data. -/
lemma Value.outline_of_app {v : Value} {form : AppForm} {a : App}
    (h : v.content? = some (.app form a)) :
    v.outline = .plain form.shape ∧ v.isComponentType = false := by
  cases v with
  | data c =>
    cases h
    exact ⟨rfl, rfl⟩
  | bound c =>
    cases h
    exact ⟨rfl, rfl⟩
  | callable r => cases h
  | component i => cases h
  | componentType t => cases h

/-- A value is an app of a type, and behaves like the app `a`. -/
def Value.Presents (v : Value) (form : AppForm) (a : App) : Prop :=
  ∃ a', v.content? = some (.app form a') ∧ ∀ held depth, a'.run held depth = a.run held depth

/-- An app that delegates behaves like the app behind it. -/
lemma Value.presents_delegate (form : AppForm) (a : App) :
    (Value.data (.app form (.delegate a))).Presents form a :=
  ⟨.delegate a, rfl, fun held depth => App.run_delegate held depth a⟩

/-- The edge from functions to objects. -/
lemma Conversion.exec_toObject {v : Value} {a : App} (h : v.content? = some (.app .func a))
    (s : State) :
    (Conversion.toObject.apply v).exec s = (.ok (.data (.app .object (.delegate a))), s) := by
  obtain ⟨_, hx, ⟨⟩⟩ := extractAll_app h .nil
  exact Routine.exec_invoke (r := .toObject) hx s

/-- The edge from objects to functions. -/
lemma Conversion.exec_toFunc {v : Value} {a : App} (h : v.content? = some (.app .object a))
    (s : State) :
    (Conversion.toFunc.apply v).exec s = (.ok (.data (.app .func (.delegate a))), s) := by
  obtain ⟨_, hx, ⟨⟩⟩ := extractAll_app h .nil
  exact Routine.exec_invoke (r := .toFunc) hx s

/-- With the built-in conversions, a conversion changes no cell. -/
lemma frames_convertIn_builtin {k : RegistryId} {s : State}
    (hs : s.registry k = .builtin) (v : Value) (t : Convention) :
    State.Frame ∅ s ((convertIn k v t).exec s).2 := by
  rw [convertIn, Assembly.exec_get_bind, hs]
  refine frames_convert ?_ v t s
  rintro c hc
  have hc : c ∈ [.toObject, .toFunc] := hc
  obtain rfl | rfl : c = .toObject ∨ c = .toFunc := by simpa using hc
  · exact Set.Subset.rfl
  · exact Set.Subset.rfl

/-! ## Trails along the built-in edges -/

/-- With the built-in conversions, a trail leads from an outline to a shape, and none is followed in
vain before it. -/
structure Outline.Takes (x : Outline) (s : Shape) (w : Trail) : Prop where
  losing_eq : x.losing Registry.builtin.edges s = []
  plan_eq : x.plan? Registry.builtin.edges s = some w

/-- The outline of a component that is bound to a function of the environment. -/
structure Outline.Binds (x : Outline) : Prop where
  shape_ne_func : x.shape ≠ .appFunc
  shape_ne_object : x.shape ≠ .dynApp
  func_mem : Shape.appFunc ∈ x.invokes
  object_not_mem : Shape.dynApp ∉ x.invokes

namespace Outline.Binds

variable {x : Outline} (hx : x.Binds)
include hx

/-- The edge to the object does not start at such a component. -/
lemma not_startsAt : Conversion.toObject.startsAt x.shape = false := by
  simp [Conversion.startsAt, Conversion.toObject, hx.shape_ne_func]

/-- The component gives a function of the environment through its operation. -/
lemma step_func : x.step? Registry.builtin.edges .appFunc = some ⟨some .appFunc, []⟩ := by
  rw [step?, if_neg hx.shape_ne_func, if_pos hx.func_mem]

/-- No single step leads from such a component to the object. -/
lemma step_object : x.step? Registry.builtin.edges .dynApp = none := by
  have hedges : Registry.builtin.edges = [.toObject, .toFunc] := rfl
  rw [step?, if_neg hx.shape_ne_object, if_neg hx.object_not_mem, hedges]
  simp [hx.not_startsAt, Conversion.toFunc]

/-- A component becomes a function by one of its operations. -/
lemma takes_func : x.Takes .appFunc ⟨some .appFunc, []⟩ where
  losing_eq := by rw [losing, hx.step_func]
  plan_eq := by rw [plan?, hx.step_func]

/-- The edge to objects is the middle of a trail that starts at an operation. -/
lemma via_toObject : x.via? Registry.builtin.edges .dynApp .toObject =
    some ⟨some .appFunc, [.toObject]⟩ := by
  have happroach : x.approach? Registry.builtin.edges .toObject = some ⟨some .appFunc, []⟩ := by
    rw [approach?, hx.not_startsAt]
    exact hx.step_func
  rw [via?, trial?, happroach]
  rfl

/-- A component becomes an object by way of a function. -/
lemma takes_object : x.Takes .dynApp ⟨some .appFunc, [.toObject]⟩ := by
  have hvia := hx.via_toObject
  have hedges : Registry.builtin.edges = .toObject :: [.toFunc] := rfl
  constructor
  · rw [losing, hx.step_object]
    dsimp only
    generalize x.via? Registry.builtin.edges .dynApp = via at hvia
    rw [hedges, List.takeWhile_cons]
    simp [hvia]
  · rw [plan?, hx.step_object]
    dsimp only
    generalize x.via? Registry.builtin.edges .dynApp = via at hvia
    rw [hedges, List.findSome?_cons, hvia]

end Outline.Binds

/-- A component that is bound to an app has such an outline. -/
lemma Outline.binds_of_boundInvoke? {i : Instance} {o : Value}
    (hi : boundInvoke? (.component i) (.object .appFunc) = some o) :
    (Value.component i).outline.Binds where
  shape_ne_func := by cases i <;> exact nofun
  shape_ne_object := by cases i <;> exact nofun
  func_mem := (isSome_boundInvoke? _ (.object .appFunc)).1 (by simp [hi])
  object_not_mem h := by
    -- no object is the handle of a callable
    obtain ⟨o, ho, hshape⟩ := List.mem_map.1 h
    have hcallable := (List.mem_filter.1 ho).2
    simp [Operation.convention, hshape, Convention.ofShape, Convention.object,
      Convention.isCallable] at hcallable

/-! ## Conversions -/

section Builtin

variable {k : RegistryId} {s : State} (hs : s.registry k = .builtin)
include hs

/-- A conversion follows the trail that is found for it. -/
lemma convertIn_of_takes {v out : Value} (hv : v.isComponentType = false) {t : Convention}
    {form : AppForm} (ht : t.handle = form.shape) {w : Trail}
    (hw : v.outline.Takes form.shape w) (hrun : (w.run v).exec s = (.ok out, s)) :
    ∃ s', (convertIn k v t).exec s = (.ok out, s') := by
  have hsound := Registry.builtin_filled.sound
  rw [← ht] at hw
  rw [convertIn, Assembly.exec_get_bind, hs, convert_eq_planned hsound hv, planned, hw.losing_eq,
    hw.plan_eq, rehearse, pure_bind, Assembly.exec_bind_ok hrun, Assembly.exec_lift_bind,
    Assembly.exec_lift_bind]
  exact ⟨_, rfl⟩

/-- An app comes to either type of apps. -/
lemma convertIn_of_app {v : Value} {form form' : AppForm} {a : App}
    (hv : v.content? = some (.app form a)) (hform : form ≠ .legacy) (hform' : form' ≠ .legacy)
    {t : Convention} (ht : t.handle = form'.shape) :
    ∃ out s', (convertIn k v t).exec s = (.ok out, s') ∧ out.Presents form' a := by
  obtain ⟨hout, hct⟩ := Value.outline_of_app hv
  have hconvert {w : Trail} {out : Value} (hw : (Outline.plain form.shape).Takes form'.shape w)
      (hrun : (w.run v).exec s = (.ok out, s)) : ∃ s', (convertIn k v t).exec s = (.ok out, s') :=
    convertIn_of_takes hs hct ht (hout ▸ hw) hrun
  cases form with
  | legacy => exact absurd rfl hform
  | func =>
    cases form' with
    | legacy => exact absurd rfl hform'
    | func =>
      obtain ⟨s', h⟩ := hconvert (w := ⟨none, []⟩) ⟨rfl, rfl⟩ rfl
      exact ⟨v, s', h, a, hv, fun _ _ => rfl⟩
    | object =>
      obtain ⟨s', h⟩ := hconvert (w := ⟨none, [.toObject]⟩) ⟨rfl, rfl⟩
        (by rw [Trail.run_single, Conversion.exec_toObject hv])
      exact ⟨_, s', h, Value.presents_delegate .object a⟩
  | object =>
    cases form' with
    | legacy => exact absurd rfl hform'
    | func =>
      obtain ⟨s', h⟩ := hconvert (w := ⟨none, [.toFunc]⟩) ⟨rfl, rfl⟩
        (by rw [Trail.run_single, Conversion.exec_toFunc hv])
      exact ⟨_, s', h, Value.presents_delegate .func a⟩
    | object =>
      obtain ⟨s', h⟩ := hconvert (w := ⟨none, []⟩) ⟨rfl, rfl⟩ rfl
      exact ⟨v, s', h, a, hv, fun _ _ => rfl⟩

/-- A component that is bound to an app comes to either type of apps. -/
lemma convertIn_of_component {i : Instance} {a : App}
    (hi : boundInvoke? (.component i) (.object .appFunc) = some (.bound (.app .func a)))
    {form : AppForm} (hform : form ≠ .legacy) {t : Convention} (ht : t.handle = form.shape) :
    ∃ out s', (convertIn k (.component i) t).exec s = (.ok out, s') ∧ out.Presents form a := by
  have hbinds := Outline.binds_of_boundInvoke? hi
  have horigin (es : List Conversion) :
      Trail.origin ⟨some .appFunc, es⟩ (.component i) = .bound (.app .func a) :=
    Trail.origin_of_boundInvoke? hi es
  cases form with
  | legacy => exact absurd rfl hform
  | func =>
    have hrun : ((⟨some .appFunc, []⟩ : Trail).run (.component i)).exec s =
        (.ok (.bound (.app .func a)), s) := by
      rw [Trail.run_nil, horigin]
      rfl
    obtain ⟨s', h⟩ := convertIn_of_takes hs rfl ht hbinds.takes_func hrun
    exact ⟨_, s', h, a, rfl, fun _ _ => rfl⟩
  | object =>
    have hrun : ((⟨some .appFunc, [.toObject]⟩ : Trail).run (.component i)).exec s =
        (.ok (.data (.app .object (.delegate a))), s) := by
      rw [Trail.run, horigin, List.foldlM_cons,
        Assembly.exec_bind_ok (Conversion.exec_toObject rfl s)]
      rfl
    obtain ⟨s', h⟩ := convertIn_of_takes hs rfl ht hbinds.takes_object hrun
    exact ⟨_, s', h, Value.presents_delegate .object a⟩

/-- A value that stands for an app comes to either type of apps, with the behaviour of that app. -/
lemma convertIn_of_standsFor {v : Value} {a : App} (hv : v.StandsFor a) {form : AppForm}
    (hform : form ≠ .legacy) {t : Convention} (ht : t.handle = form.shape) :
    ∃ out s', (convertIn k v t).exec s = (.ok out, s') ∧ out.Presents form a := by
  cases hv with
  | app hform₀ h => exact convertIn_of_app hs h hform₀ hform ht
  | component h => exact convertIn_of_component hs h hform ht

end Builtin

end Pipework
