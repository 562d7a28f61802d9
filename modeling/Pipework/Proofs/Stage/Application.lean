import Pipework.Proofs.Engine.Frame
import Pipework.Proofs.Engine.Within
import Pipework.Proofs.Stage.Output
import Pipework.Proofs.Value.Misfit

set_option autoImplicit false

/-!
# Applying a stage

What has been chosen for a stage is called with the next app and the extra arguments. When the stage
was resolved, the extra arguments were compared with the parameters by their shapes only. That is
enough: the one thing which fits a parameter but cannot be given for it is a component type where a
component type is asked for.

## Main definitions

* `Args.Blocked` — a position at which an argument fits but cannot be given.
* `Value.contentFor?` — what a parameter gets from an argument.
* `LogsOnce` — the call log after one call.
* `Routine.Ran`, `ComponentType.Constructed` — one run of a routine and of a constructor.
* `Factory.Makes` — what a stage makes, and where it comes from.

## Main results

* `extractAll_of_fits`, `extractAll_of_blocked` — arguments that fit are given, or the first one
  that is blocked is reported.
* `Stage.apply_of_resolve` — a stage runs what has been chosen once, unless an argument is blocked.
-/

namespace Pipework

/-! ## Arguments that fit -/

/-- At a position there is a component type where the parameter asks for one. -/
def Args.Blocked (args : Args) (params : List Shape) (i : Nat) : Prop :=
  ∃ t, args[i]? = some (.componentType t) ∧ params[i]? = some (.atom .componentType)

/-- What a parameter gets from an argument: one that takes any value gets the argument itself, any
other what the argument holds. -/
def Value.contentFor? (v : Value) (param : Shape) : Option Content :=
  if param = .value then some (.value v) else v.content?

/-- The contents that parameters get from arguments, one for each and in the same order. -/
def Given (args : Args) (params : List Shape) (cs : List Content) : Prop :=
  List.zipWith Value.contentFor? args params = cs.map some

/-- An argument that fits is given, unless it is blocked. -/
lemma extractFrom_of_fits {v : Value} {p : Shape} (h : v.fits p = true)
    (hv : v.isComponentType = false ∨ p ≠ .atom .componentType) (index : Nat) :
    ∃ c, extractFrom index v p = .ok c ∧ v.contentFor? p = some c := by
  unfold extractFrom Value.contentFor?
  split
  · exact ⟨.value v, rfl, rfl⟩
  · next hp =>
    obtain ⟨hs, hdata⟩ := (Value.gives_of_fits hv h).resolve_left hp
    obtain ⟨c, hc, hshape⟩ := Value.exists_content hdata
    have hget : v.get? p = some c := by simp [Value.get?, hc, hshape.trans hs]
    exact ⟨c, by rw [hget], hc⟩

/-- An argument that fits is blocked only by a component type for a parameter of that shape. -/
lemma isComponentType_of_not_blocked {v : Value} {args : Args} {p : Shape} {params : List Shape}
    (h : ¬Args.Blocked (v :: args) (p :: params) 0) :
    v.isComponentType = false ∨ p ≠ .atom .componentType := by
  cases v with
  | componentType t =>
    refine .inr fun hp => h ⟨t, rfl, ?_⟩
    rw [hp]
    rfl
  | _ => exact .inl rfl

/-- Arguments that fit, none of which is blocked, are given in order. -/
lemma extractList_of_fits {args : Args} {params : List Shape}
    (h : List.Forall₂ (fun v p => Value.fits v p = true) args params)
    (hfree : ∀ i, ¬Args.Blocked args params i) :
    ∀ index, ∃ cs, extractList index params args = .ok cs ∧ Given args params cs := by
  induction h with
  | nil => exact fun _ => ⟨[], rfl, rfl⟩
  | cons hfits _ ih =>
    intro index
    obtain ⟨c, hc, hgiven⟩ :=
      extractFrom_of_fits hfits (isComponentType_of_not_blocked (hfree 0)) index
    obtain ⟨cs, hcs, hrest⟩ := ih (fun i => hfree (i + 1)) (index + 1)
    refine ⟨c :: cs, by simp only [extractList, hc, hcs], ?_⟩
    rw [Given, List.zipWith_cons_cons, hgiven, hrest, List.map_cons]

/-- A blocked argument is a misfit. -/
lemma Args.Blocked.misfits {args : Args} {params : List Shape} {i : Nat}
    (h : args.Blocked params i) : args.Misfits params i := by
  obtain ⟨t, hv, hp⟩ := h
  exact ⟨_, _, hv, hp, .inr ⟨rfl, rfl⟩⟩

section

variable {args : Args} {params : List Shape} (h : args.fits params = true)
include h

/-- If no argument is blocked, all of them are given away. -/
lemma extractAll_of_fits (hfree : ∀ i, ¬Args.Blocked args params i) :
    ∃ cs, extractAll params args = .ok cs ∧ Given args params cs := by
  have hfits := Args.fits_iff.1 h
  obtain ⟨cs, hcs, hgiven⟩ := extractList_of_fits hfits hfree 0
  exact ⟨cs, by simp [extractAll, hfits.length_eq, hcs], hgiven⟩

/-- Among arguments that fit nothing else is a misfit. -/
lemma Args.misfits_iff_blocked {i : Nat} : args.Misfits params i ↔ args.Blocked params i := by
  refine ⟨?_, Blocked.misfits⟩
  rintro ⟨v, p, hv, hp, ⟨hshape, hany⟩ | ⟨htype, rfl⟩⟩
  · have hfits := List.forall₂_iff_get.1 (fits_iff.1 h)
    obtain ⟨hi, rfl⟩ := List.getElem?_eq_some_iff.1 hv
    obtain ⟨hi', rfl⟩ := List.getElem?_eq_some_iff.1 hp
    simpa [Value.fits, hshape, hany] using hfits.2 i hi hi'
  · cases v with
    | componentType t => exact ⟨t, hv, hp⟩
    | _ => cases htype

/-- If arguments are blocked, the first one of them is reported. -/
lemma extractAll_of_blocked {i : Nat} (hleast : IsLeast {i | Args.Blocked args params i} i) :
    extractAll params args =
      .error (.argumentMismatch i (.atom .componentType) (.atom .componentType)) := by
  obtain ⟨t, hv, hp⟩ := id hleast.1
  simp only [← Args.misfits_iff_blocked h] at hleast
  simp [extractAll, (Args.fits_iff.1 h).length_eq, extractList_of_isLeast hleast hv hp 0,
    Value.shape]

end

/-! ## One run -/

/-- One line has been added to the call log, with the texts of the contents in order; what comes
before it is left by the number functions among them, which are called for their texts. -/
def LogsOnce (label : String) (cs : List Content) (s s' : State) : Prop :=
  s'.calls = ((hold cs).exec s).2.calls ++ [callLine label ((hold cs).exec s).1]

/-- A routine has been run once: the state is the one that its run leaves, the result has its result
type, and a function of the program has left one line in the call log. -/
structure Routine.Ran (r : Routine) (cs : List Content) (s : State) (c : Content) (s' : State) :
    Prop where
  exec_eq : (r.run cs).exec s = (c, s')
  shape_eq : c.shape = r.out
  logsOnce : ∀ f owner, r = .func f owner → LogsOnce f.label cs s s'

/-- A constructor has been run once: the state is the one that its run leaves, and the component is
one of the type. A component of the program has a cell that did not exist before. A mounted branch
has the app and the options that were given. -/
structure ComponentType.Constructed (t : ComponentType) (cs : List Content) (s : State)
    (i : Instance) (s' : State) : Prop where
  exec_eq : (t.make cs).exec s = (i, s')
  shape_eq : i.shape = t.instanceShape
  made_anew :
    match t with
    | .crafted cls label ops _ => LogsOnce ("new " ++ label) cs s s' ∧
        ∃ cell, i = .crafted cls label ops none cell ∧ s.cells.length ≤ cell
    | .mount => ∃ next path branch, cs = [.app .func next, .mapOptions path branch] ∧
        i = .mount path branch next

/-- What is made of a result leaves the call log alone. -/
lemma Func.calls_result (f : Func) (trace : String) (args : List Held) (s : State) :
    ((f.result trace args).exec s).2.calls = s.calls := by
  unfold Func.result
  cases f.out with
  | numFn => dsimp only; split <;> rfl
  | _ => rfl

/-- A function of the program shows its arguments and leaves its line. -/
lemma Func.logsOnce_run (f : Func) (owner : Option CellId) (cs : List Content) (s : State) :
    LogsOnce f.label cs s ((f.run owner cs).exec s).2 := by
  unfold LogsOnce
  simp only [Func.run, Engine.exec_bind]
  split <;> exact (f.calls_result _ _ _).trans (f.calls_effects _ _)

/-- A run on contents of the parameter types. -/
lemma Routine.ran {r : Routine} {cs : List Content} (h : Typed cs r.params) (s : State) :
    r.Ran cs s ((r.run cs).exec s).1 ((r.run cs).exec s).2 where
  exec_eq := rfl
  shape_eq := Routine.shape_run h s
  logsOnce := by
    rintro f owner rfl
    exact f.logsOnce_run owner cs s

/-- A run of a constructor on contents of its parameter types. -/
lemma ComponentType.constructed {t : ComponentType} {params : List Shape} (hctor : params ∈ t.ctors)
    {cs : List Content} (h : Typed cs params) (s : State) :
    t.Constructed cs s ((t.make cs).exec s).1 ((t.make cs).exec s).2 := by
  cases t with
  | crafted cls label ops ctors =>
    have hframe : State.Frame ∅ s ((hold cs).exec s).2 := frames_hold cs s
    exact ⟨rfl, rfl, rfl, _, rfl, hframe.length_cells_le⟩
  | mount =>
    obtain ⟨next, path, branch, rfl⟩ := exists_mount_args hctor h
    exact ⟨rfl, rfl, next, path, branch, rfl, rfl⟩

/-! ## Applying a stage -/

/-- What a stage that the value `v` describes makes of the contents `cs`, by one run of what has
been chosen. A callable of `v` and an `Invoke` operation give their result. A component that is told
the next app stands for the wrapped app itself, whatever the operation gives. A constructor gives a
new component. -/
inductive Factory.Makes (v : Value) (cs : List Content) (s : State) :
    Factory → Value → State → Prop
  | callable {r : Routine} {c : Content} {s' : State} (hacts : v.ActsAs r)
      (hran : r.Ran cs s c s') : Makes v cs s (.callable r) (.data c) s'
  | told {i : Instance} {r : Routine} {c : Content} {s' : State} (hv : v = .component i)
      (hop : ⟨initializeName, .callable r⟩ ∈ i.operations) (hran : r.Ran cs s c s') :
      Makes v cs s (.told r v) v s'
  | invoke {i : Instance} {r : Routine} {c : Content} {s' : State} (hv : v = .component i)
      (hop : ⟨invokeName, .callable r⟩ ∈ i.operations) (hran : r.Ran cs s c s') :
      Makes v cs s (.invoke r) (.data c) s'
  | construct {t : ComponentType} {params : List Shape} {i : Instance} {s' : State}
      (hv : v = .componentType t) (hctor : params ∈ t.ctors) (hmade : t.Constructed cs s i s') :
      Makes v cs s (.construct t params) (.component i) s'

namespace Stage

variable {v : Value} {args : Args} {st : Stage}

/-- The next app and the extra arguments fit what has been chosen, if the next app has the declared
shape or the first parameter takes any value. -/
lemma fits_next (h : st.Sound) {next : Value}
    (hnext : next.shape = st.convention.handle ∨ st.factory.params.head? = some .value) :
    Args.fits (next :: st.args) st.factory.params = true := by
  obtain ⟨p, ps, hparams, hfits⟩ := exists_params h.fits
  rw [h.convention_eq, hparams] at hnext
  rw [hparams, Args.fits, hfits, Bool.and_true, Value.fits]
  simpa [nextConvention] using hnext

/-- A blocked argument fails the call, and nothing has been run. -/
lemma exec_apply_of_error {next : Value} {e : BuildError}
    (h : extractAll st.factory.params (next :: st.args) = .error e) (s : State) :
    (st.apply next).exec s = (.error e, s) := by
  have hinvoke (r : Routine) (hr : r.params = st.factory.params) :
      (r.invoke (next :: st.args)).exec s = (.error e, s) :=
    Routine.exec_invoke_of_error (by rw [hr, h]) s
  unfold apply
  cases hf : st.factory with
  | callable r => exact hinvoke r (by rw [hf]; rfl)
  | told r component =>
    dsimp only
    rw [Assembly.discard_bind, Assembly.exec_bind_error (hinvoke r (by rw [hf]; rfl))]
  | invoke r => exact hinvoke r (by rw [hf]; rfl)
  | construct t params =>
    rw [hf] at h
    have hparams : extractAll params (next :: st.args) = .error e := h
    dsimp only
    rw [ComponentType.constructWith, hparams,
      Assembly.exec_bind_error (Assembly.exec_ofExcept _ s)]

/-- Arguments that are given lead to one run of what has been chosen. -/
lemma exec_apply_of_ok (h : resolve v args = .ok st) {next : Value} {cs : List Content}
    (hcs : extractAll st.factory.params (next :: st.args) = .ok cs) (s : State) :
    ∃ out s', (st.apply next).exec s = (.ok out, s') ∧ st.factory.Makes v cs s out s' := by
  have htyped := typed_of_extractAll hcs
  cases describes_of_resolve h with
  | callable hacts htakes =>
    exact ⟨_, _, Routine.exec_invoke hcs s, .callable hacts (Routine.ran htyped s)⟩
  | told hv hcallable hserves =>
    refine ⟨_, _, ?_, .told hv (mem_operations_of_serves hserves) (Routine.ran htyped s)⟩
    rw [apply]
    dsimp only
    rw [Assembly.discard_bind, Assembly.exec_bind_ok (Routine.exec_invoke hcs s)]
    rfl
  | invoke hv hcallable htold hserves =>
    exact ⟨_, _, Routine.exec_invoke hcs s,
      .invoke hv (mem_operations_of_serves hserves) (Routine.ran htyped s)⟩
  | construct hv hbuilds =>
    obtain ⟨before, after, hctors, -, -⟩ := hbuilds
    have hctor := hctors ▸ List.mem_append_right before List.mem_cons_self
    exact ⟨_, _, ComponentType.exec_constructWith hcs s,
      .construct hv hctor (ComponentType.constructed hctor htyped s)⟩

/-- **Applying a resolved stage.** The next app has the shape that the stage declares, or is any
value if the first parameter takes any. If some argument, the next app among them, is a component
type for a parameter of that shape, applying the stage fails with the mismatch of the first such
position and runs nothing. Otherwise it succeeds, and what has been chosen is run once, with the
next app and the extra arguments in order: the result comes from where `Factory.Makes` says, with
the result type of the callable or the class of the component type.

**Proof sketch.** The arguments fit the parameters (`fits_next`). So they are given, unless one is
blocked (`extractAll_of_fits`, `extractAll_of_blocked`), and what is given is what is run
(`exec_apply_of_ok`). -/
theorem apply_of_resolve (h : resolve v args = .ok st) {next : Value}
    (hnext : next.shape = st.convention.handle ∨ st.factory.params.head? = some .value)
    (s : State) :
    let given : Args := next :: args
    (∀ i, IsLeast {i | given.Blocked st.factory.params i} i → (st.apply next).exec s =
      (.error (.argumentMismatch i (.atom .componentType) (.atom .componentType)), s)) ∧
    ((∀ i, ¬given.Blocked st.factory.params i) → ∃ cs out s', Given given st.factory.params cs ∧
      (st.apply next).exec s = (.ok out, s') ∧ st.factory.Makes v cs s out s') := by
  intro given
  have hargs := args_of_resolve h
  have hfits : given.fits st.factory.params = true := by
    have hsound : st.Sound := Resolved.sound ⟨v, args, h⟩
    have hnextFits := fits_next hsound hnext
    rwa [hargs] at hnextFits
  refine ⟨fun i hleast => ?_, fun hfree => ?_⟩
  · refine exec_apply_of_error ?_ s
    rw [hargs]
    exact extractAll_of_blocked hfits hleast
  · obtain ⟨cs, hcs, hgiven⟩ := extractAll_of_fits hfits hfree
    obtain ⟨out, s', hexec, hmakes⟩ := exec_apply_of_ok h (by rw [hargs]; exact hcs) s
    exact ⟨cs, out, s', hgiven, hexec, hmakes⟩

/-- A component type is no obstacle to parameters that take any value, neither in the place of the
next app nor as an extra argument, but it is one to a parameter that asks for it. -/
theorem apply_of_resolve_component_types :
    let t := ComponentType.crafted 0 "x" [] [[.appFunc], [.value, .value]]
    let taking : Stage := ⟨.object .value, .construct t [.value, .value], [.componentType .mount],
      .constructibleComponent, "component type Comp<0>"⟩
    (∃ i s', (taking.apply (.componentType t)).exec .initial = (.ok (.component i), s') ∧
      i.shape = .atom (.component 0)) ∧
    (asking.apply notFoundValue).exec .initial =
      (.error (.argumentMismatch 1 (.atom .componentType) (.atom .componentType)), .initial) := by
  intro t taking
  constructor
  · have hresolve : resolve (.componentType t) [.componentType .mount] = .ok taking := rfl
    have hfree (i : Nat) : ¬Args.Blocked [.componentType t, .componentType .mount]
        [.value, .value] i := by
      rintro ⟨-, -, hparam⟩
      match i with
      | 0 => cases hparam
      | 1 => cases hparam
    have hnext : (Value.componentType t).shape = taking.convention.handle ∨
        taking.factory.params.head? = some .value := .inr rfl
    obtain ⟨cs, out, s', -, hexec, hmakes⟩ := (apply_of_resolve hresolve hnext .initial).2 hfree
    cases hmakes with
    | construct hv hctor hmade =>
      cases hv
      exact ⟨_, s', hexec, hmade.shape_eq⟩
  · have hresolve : resolve (.callable (.func
        (.mk [.appFunc, .atom .componentType] (.app .func) "w" none [] []) none))
        [.componentType (.crafted 0 "x" [] [[.appFunc]])] = .ok asking := rfl
    have hnext : notFoundValue.shape = asking.convention.handle ∨
        asking.factory.params.head? = some .value := .inl rfl
    refine (apply_of_resolve hresolve hnext .initial).1 1
      ⟨⟨_, rfl, rfl⟩, fun i hi => Nat.one_le_iff_ne_zero.2 ?_⟩
    rintro rfl
    obtain ⟨t', hfirst, -⟩ := hi
    cases hfirst

end Stage

end Pipework
