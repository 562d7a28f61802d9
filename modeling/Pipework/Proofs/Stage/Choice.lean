import Pipework.Proofs.Value.Typing

set_option autoImplicit false

/-!
# The stage that a value describes

A value can describe a stage in several ways: it is or stands for a callable, it is a component with
operations, or it is a component type with constructors. What is chosen must have a parameter for
the next app, and its other parameters must take the extra arguments. The ways are tried in a fixed
order, and within a way the first candidate is chosen. This file states that rule as a relation and
shows that it is what the choice computes.

## Main definitions

* `TakesNext` — parameters with room for the next app that take the extra arguments.
* `Value.ActsAs` — the callable that a value is or stands for.
* `Instance.Serves` — the operation by which a component takes part.
* `ComponentType.Builds` — the constructor by which a component type takes part.
* `Stage.Describes` — the outcome for a value with extra arguments.

## Main results

* `Stage.callableOf?_eq_some_iff`, `Stage.operation?_eq_some_iff` — the candidates that are found.
* `Stage.resolve_eq_iff_describes` — the choice of a stage is the one of the rule.
-/

namespace Pipework

/-! ## Candidates -/

/-- The parameters begin with `next`, which is for the next app, and the others take the extra
arguments one by one: a parameter has the shape of its argument, or takes any value. -/
def TakesNext (next : Shape) (params : List Shape) (args : Args) : Prop :=
  ∃ rest, params = next :: rest ∧
    List.Forall₂ (fun (v : Value) p => v.shape = p ∨ p = .value) args rest

/-- A callable that a value is, or that a component stands for. -/
inductive Value.ActsAs : Value → Routine → Prop
  | itself (r : Routine) : ActsAs (.callable r) r
  | component {i : Instance} {r : Routine} (h : i.callable? = some (.callable r)) :
      ActsAs (.component i) r

/-- An operation of a name can be called with the next app, for which `next` is the shape, and with
the extra arguments. -/
def Operation.Serves (o : Operation) (name : String) (args : Args) (next : Shape) (r : Routine) :
    Prop :=
  o.name = name ∧ o.value = .callable r ∧ TakesNext next r.params args

/-- The first operation of a name that can be called with the next app and the extra arguments, in
the order of their declaration. -/
def Instance.Serves (i : Instance) (name : String) (args : Args) (next : Shape) (r : Routine) :
    Prop :=
  ∃ before o after, i.operations = before ++ o :: after ∧ o.Serves name args next r ∧
    ∀ o' ∈ before, ∀ next' r', ¬o'.Serves name args next' r'

/-- The first constructor that can be called with the next app and the extra arguments. -/
def ComponentType.Builds (t : ComponentType) (args : Args) (next : Shape) (params : List Shape) :
    Prop :=
  ∃ before after, t.ctors = before ++ params :: after ∧ TakesNext next params args ∧
    ∀ params' ∈ before, ∀ next', ¬TakesNext next' params' args

namespace Stage

/-- The rule by which a value describes a stage together with extra arguments. A callable comes
first, if its parameters fit; then an operation that is told the next app, then one that makes the
wrapped app; a component type has its constructors. The stage declares the shape of the first
parameter of what is chosen. -/
inductive Describes (v : Value) (args : Args) : Except BuildError Stage → Prop
  | callable {r : Routine} {next : Shape} (hacts : v.ActsAs r)
      (htakes : TakesNext next r.params args) :
      Describes v args
        (.ok ⟨.object next, .callable r, args, .callableFactory, v.describe⟩)
  | told {i : Instance} {r : Routine} {next : Shape} (hv : v = .component i)
      (hcallable : ∀ r next, v.ActsAs r → ¬TakesNext next r.params args)
      (hserves : i.Serves initializeName args next r) :
      Describes v args
        (.ok ⟨.object next, .told r v, args, .instanceWithInitializer, v.describe⟩)
  | invoke {i : Instance} {r : Routine} {next : Shape} (hv : v = .component i)
      (hcallable : ∀ r next, v.ActsAs r → ¬TakesNext next r.params args)
      (htold : ∀ o ∈ i.operations, ∀ next r, ¬o.Serves initializeName args next r)
      (hserves : i.Serves invokeName args next r) :
      Describes v args (.ok ⟨.object next, .invoke r, args, .instanceWithInvoke, v.describe⟩)
  | construct {t : ComponentType} {params : List Shape} {next : Shape} (hv : v = .componentType t)
      (hbuilds : t.Builds args next params) :
      Describes v args
        (.ok ⟨.object next, .construct t params, args, .constructibleComponent, v.describe⟩)
  | arity {t : ComponentType} (hv : v = .componentType t)
      (hbuilds : ∀ params ∈ t.ctors, ∀ next, ¬TakesNext next params args) :
      Describes v args (.error (.constructorArity t.name (args.length + 1)))
  | unsupported (hcallable : ∀ r next, v.ActsAs r → ¬TakesNext next r.params args)
      (hcomponent : ∀ i, v = .component i → ∀ o ∈ i.operations, ∀ next r,
        ¬o.Serves initializeName args next r ∧ ¬o.Serves invokeName args next r)
      (htype : ∀ t, v ≠ .componentType t) :
      Describes v args (.error (.shapeNotSupported v.describe))

/-! ## Finding the candidates -/

variable {v : Value} {args : Args}

/-- The test on parameters looks for room for the next app. -/
lemma fitsNextAnd_iff {params : List Shape} :
    fitsNextAnd params args = true ↔ ∃ next, TakesNext next params args := by
  cases params with
  | nil => simp [fitsNextAnd, TakesNext]
  | cons p ps => simp [fitsNextAnd, TakesNext, Args.fits_iff, Value.fits]

/-- What is declared is the first parameter. -/
lemma nextConvention_of_takesNext {next : Shape} {params : List Shape}
    (h : TakesNext next params args) : nextConvention params = .object next := by
  obtain ⟨rest, rfl, -⟩ := h
  rfl

/-- The routine of a value is the one that it calls. -/
lemma routine?_eq_some_iff {r : Routine} : v.routine? = some r ↔ v = .callable r := by
  cases v <;> simp [Value.routine?]

/-- The callable that a value is or stands for. -/
lemma callableOf?_eq_some_iff {r : Routine} : callableOf? v = some r ↔ v.ActsAs r := by
  constructor
  · intro h
    unfold callableOf? at h
    cases v with
    | callable r' =>
      cases h
      exact .itself r
    | component i =>
      obtain ⟨w, hw, hr⟩ := Option.bind_eq_some_iff.1 h
      rw [routine?_eq_some_iff.1 hr] at hw
      exact .component hw
    | _ => cases h
  · rintro (⟨r⟩ | ⟨h⟩)
    · rfl
    · simp [callableOf?, Value.routine?, Value.component?, h]

/-- The stage of a callable that takes the next app and the extra arguments. -/
lemma ofCallable?_of_actsAs {r : Routine} {next : Shape} (hacts : v.ActsAs r)
    (htakes : TakesNext next r.params args) :
    ofCallable? v args =
      some ⟨.object next, .callable r, args, .callableFactory, v.describe⟩ := by
  rw [ofCallable?, callableOf?_eq_some_iff.2 hacts, Option.bind_some,
    if_pos (fitsNextAnd_iff.2 ⟨next, htakes⟩), nextConvention_of_takesNext htakes]

/-- Without such a callable there is no stage of a callable. -/
lemma ofCallable?_eq_none_iff :
    ofCallable? v args = none ↔ ∀ r next, v.ActsAs r → ¬TakesNext next r.params args := by
  constructor
  · intro h r next hacts htakes
    rw [ofCallable?_of_actsAs hacts htakes] at h
    cases h
  · intro h
    refine Option.bind_eq_none_iff.2 fun r hr => if_neg fun hfits => ?_
    obtain ⟨next, htakes⟩ := fitsNextAnd_iff.1 hfits
    exact h r next (callableOf?_eq_some_iff.1 hr) htakes

/-- What an operation contributes to the search for one of a name. -/
def candidate? (name : String) (args : Args) (o : Operation) : Option Routine :=
  if o.name = name then
    o.value.routine?.bind fun r => if fitsNextAnd r.params args then some r else none
  else none

/-- An operation is a candidate exactly if it serves the arguments under the name. -/
lemma candidate?_eq_some_iff {o : Operation} {name : String} {r : Routine} :
    candidate? name args o = some r ↔ ∃ next, o.Serves name args next r := by
  simp only [candidate?, Option.ite_none_right_eq_some, Option.bind_eq_some_iff,
    routine?_eq_some_iff, Option.some.injEq, Operation.Serves, exists_and_left]
  constructor
  · rintro ⟨hname, r', hvalue, hfits, rfl⟩
    exact ⟨hname, hvalue, fitsNextAnd_iff.1 hfits⟩
  · rintro ⟨hname, hvalue, htakes⟩
    exact ⟨hname, r, hvalue, fitsNextAnd_iff.2 htakes, rfl⟩

/-- An operation is no candidate exactly if it does not serve the arguments under the name. -/
lemma candidate?_eq_none_iff {o : Operation} {name : String} :
    candidate? name args o = none ↔ ∀ next r, ¬o.Serves name args next r := by
  simp only [Option.eq_none_iff_forall_ne_some, ne_eq, candidate?_eq_some_iff, not_exists]
  exact forall_comm

/-- The search for an operation goes through all of them in order. -/
lemma operation?_eq_findSome? (i : Instance) (name : String) (args : Args) :
    operation? i name args = i.operations.findSome? (candidate? name args) := by
  unfold operation? Instance.named
  induction i.operations with
  | nil => rfl
  | cons o ops ih =>
    by_cases hname : o.name = name
    · rw [List.filter_cons_of_pos (by simpa using hname), List.findSome?_cons, List.findSome?_cons,
        ih, candidate?, if_pos hname]
    · rw [List.filter_cons_of_neg (by simpa using hname), List.findSome?_cons, ih, candidate?,
        if_neg hname]

/-- The operation of a component that is found is the first one that serves the arguments. -/
lemma operation?_eq_some_iff {i : Instance} {name : String} {r : Routine} :
    operation? i name args = some r ↔ ∃ next, i.Serves name args next r := by
  simp only [operation?_eq_findSome?, List.findSome?_eq_some_iff, candidate?_eq_some_iff,
    candidate?_eq_none_iff, Instance.Serves]
  constructor
  · rintro ⟨before, o, after, hops, ⟨next, hserves⟩, hbefore⟩
    exact ⟨next, before, o, after, hops, hserves, hbefore⟩
  · rintro ⟨next, before, o, after, hops, hserves, hbefore⟩
    exact ⟨before, o, after, hops, ⟨next, hserves⟩, hbefore⟩

/-- No operation is found exactly if none serves the arguments. -/
lemma operation?_eq_none_iff {i : Instance} {name : String} :
    operation? i name args = none ↔ ∀ o ∈ i.operations, ∀ next r, ¬o.Serves name args next r := by
  simp only [operation?_eq_findSome?, List.findSome?_eq_none_iff, candidate?_eq_none_iff]

/-- What serves declares the shape that is for the next app. -/
lemma takesNext_of_serves {i : Instance} {name : String} {next : Shape} {r : Routine}
    (h : i.Serves name args next r) : TakesNext next r.params args := by
  obtain ⟨-, o, -, -, ⟨-, -, htakes⟩, -⟩ := h
  exact htakes

/-- A serving operation is one of the operations of the component. -/
lemma mem_operations_of_serves {i : Instance} {name : String} {next : Shape} {r : Routine}
    (h : i.Serves name args next r) : ⟨name, .callable r⟩ ∈ i.operations := by
  obtain ⟨before, ⟨n, w⟩, after, hops, ⟨rfl, rfl, -⟩, -⟩ := h
  rw [hops]
  exact List.mem_append_right _ List.mem_cons_self

/-- The constructor that is found is the first one with room for the next app. -/
lemma find?_ctors_eq_some_iff {t : ComponentType} {params : List Shape} :
    (t.ctors.find? fun params => fitsNextAnd params args) = some params ↔
      ∃ next, t.Builds args next params := by
  simp only [List.find?_eq_some_iff_append, fitsNextAnd_iff, Bool.not_eq_true',
    ← Bool.not_eq_true, not_exists, ComponentType.Builds]
  constructor
  · rintro ⟨⟨next, htakes⟩, before, after, hctors, hbefore⟩
    exact ⟨next, before, after, hctors, htakes, hbefore⟩
  · rintro ⟨next, before, after, hctors, htakes, hbefore⟩
    exact ⟨⟨next, htakes⟩, before, after, hctors, hbefore⟩

/-- No constructor is found exactly if none has room for the next app. -/
lemma find?_ctors_eq_none_iff {t : ComponentType} :
    (t.ctors.find? fun params => fitsNextAnd params args) = none ↔
      ∀ params ∈ t.ctors, ∀ next, ¬TakesNext next params args := by
  simp only [List.find?_eq_none, fitsNextAnd_iff, not_exists]

/-! ## The choice -/

/-- The rule tells what the choice computes. -/
lemma resolve_of_describes {x : Except BuildError Stage} (h : Describes v args x) :
    resolve v args = x := by
  unfold resolve
  cases h with
  | callable hacts htakes => rw [ofCallable?_of_actsAs hacts htakes]
  | told hv hcallable hserves =>
    subst hv
    rw [ofCallable?_eq_none_iff.2 hcallable]
    simp only [ofComponent?, operation?_eq_some_iff.2 ⟨_, hserves⟩,
      nextConvention_of_takesNext (takesNext_of_serves hserves)]
  | invoke hv hcallable htold hserves =>
    subst hv
    rw [ofCallable?_eq_none_iff.2 hcallable]
    simp only [ofComponent?, operation?_eq_none_iff.2 htold,
      operation?_eq_some_iff.2 ⟨_, hserves⟩, Option.map_some,
      nextConvention_of_takesNext (takesNext_of_serves hserves)]
  | construct hv hbuilds =>
    subst hv
    have ⟨_, _, _, htakes, _⟩ := hbuilds
    simp only [ofCallable?, callableOf?, Value.routine?, Value.component?, Option.bind_none,
      ofComponentType, find?_ctors_eq_some_iff.2 ⟨_, hbuilds⟩, nextConvention_of_takesNext htakes]
  | arity hv hbuilds =>
    subst hv
    simp only [ofCallable?, callableOf?, Value.routine?, Value.component?, Option.bind_none,
      ofComponentType, find?_ctors_eq_none_iff.2 hbuilds]
  | unsupported hcallable hcomponent htype =>
    rw [ofCallable?_eq_none_iff.2 hcallable]
    cases v with
    | component i =>
      have hnone := hcomponent i rfl
      simp only [ofComponent?,
        operation?_eq_none_iff.2 fun o ho next r => (hnone o ho next r).1,
        operation?_eq_none_iff.2 fun o ho next r => (hnone o ho next r).2, Option.map_none]
    | componentType t => exact absurd rfl (htype t)
    | _ => rfl

/-- The rule decides about every value. -/
lemma exists_describes (v : Value) (args : Args) : ∃ x, Describes v args x := by
  by_cases hcallable : ∃ r next, v.ActsAs r ∧ TakesNext next r.params args
  · obtain ⟨r, next, hacts, htakes⟩ := hcallable
    exact ⟨_, .callable hacts htakes⟩
  · have hcallable : ∀ r next, v.ActsAs r → ¬TakesNext next r.params args :=
      fun r next hacts htakes => hcallable ⟨r, next, hacts, htakes⟩
    cases v with
    | component i =>
      cases htold : operation? i initializeName args with
      | some r =>
        obtain ⟨next, hserves⟩ := operation?_eq_some_iff.1 htold
        exact ⟨_, .told rfl hcallable hserves⟩
      | none =>
        have htold := operation?_eq_none_iff.1 htold
        cases hinvoke : operation? i invokeName args with
        | some r =>
          obtain ⟨next, hserves⟩ := operation?_eq_some_iff.1 hinvoke
          exact ⟨_, .invoke rfl hcallable htold hserves⟩
        | none =>
          have hinvoke := operation?_eq_none_iff.1 hinvoke
          refine ⟨_, .unsupported hcallable ?_ nofun⟩
          rintro _ ⟨⟩ o ho next r
          exact ⟨htold o ho next r, hinvoke o ho next r⟩
    | componentType t =>
      cases hctor : t.ctors.find? fun params => fitsNextAnd params args with
      | some params =>
        obtain ⟨next, hbuilds⟩ := find?_ctors_eq_some_iff.1 hctor
        exact ⟨_, .construct rfl hbuilds⟩
      | none => exact ⟨_, .arity rfl (find?_ctors_eq_none_iff.1 hctor)⟩
    | _ => exact ⟨_, .unsupported hcallable nofun nofun⟩

/-- What the choice computes is what the rule tells. -/
lemma describes_of_resolve {x : Except BuildError Stage} (h : resolve v args = x) :
    Describes v args x := by
  obtain ⟨y, hy⟩ := exists_describes v args
  rwa [← h, resolve_of_describes hy]

/-- The extra arguments of a stage are those that it was resolved with. -/
lemma args_of_resolve {st : Stage} (h : resolve v args = .ok st) : st.args = args := by
  cases describes_of_resolve h <;> rfl

/-- **The choice of a stage.** For every value and all extra arguments the choice is the one that
the rule gives: the stage of a callable, of an operation or of a constructor, with the first
parameter as its convention, or the failure that the rule names.

**Proof sketch.** The choice computes what the rule gives (`resolve_of_describes`), one case for
each constructor. The other direction follows because the rule gives something for every value
(`exists_describes`). -/
theorem resolve_eq_iff_describes (v : Value) (args : Args) (x : Except BuildError Stage) :
    resolve v args = x ↔ Describes v args x :=
  ⟨describes_of_resolve, resolve_of_describes⟩

/-- A component that stands for a callable with a parameter too many takes part by its operation
instead, and by the second one of that name, since the first one cannot be called. -/
example :
    let init (params : List Shape) : Func := .mk params .unit "init" none [] []
    let wide : Value := .callable (.func (.mk [.appFunc, .u32] (.app .func) "wide" none [] []) none)
    let ops : List Op :=
      [.func initializeName (init [.appFunc]) false, .func initializeName (init [.dynApp]) true]
    resolve (.component (.crafted 0 "c" ops (some wide) 0)) [] =
      .ok ⟨.object .dynApp, .told (.func (init [.dynApp]) (some 0))
        (.component (.crafted 0 "c" ops (some wide) 0)), [], .instanceWithInitializer,
        "component Comp<0>"⟩ := rfl

end Stage

end Pipework
