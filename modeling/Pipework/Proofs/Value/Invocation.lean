import Mathlib.Order.Nat
import Pipework.Proofs.Stage.Application

set_option autoImplicit false

/-!
# Dynamic calls

What a call with erased arguments gives depends on the arguments position by position. If their
number is not that of the parameters, nothing else is looked at. Otherwise the first argument that
cannot be given for its parameter is reported, and if there is none, the routine runs once.

## Main definitions

* `Routine.Answers` — the outcomes of a dynamic call.

## Main results

* `extractAll_of_not_misfits` — without a misfit every parameter gets what is its own.
* `Value.invoke_callable_iff` — a call has exactly the outcome that its arguments decide.
-/

namespace Pipework

/-- Without a misfit every parameter gets what its argument holds, or the argument itself. -/
lemma extractAll_of_not_misfits {args : Args} {params : List Shape}
    (hlength : args.length = params.length) (h : ∀ i, ¬args.Misfits params i) :
    ∃ cs, extractAll params args = .ok cs ∧ Given args params cs :=
  extractAll_of_fits (Args.fits_of_gives (Args.gives_of_not_misfits hlength h))
    fun i hi => h i hi.misfits

/-- What the parameters get is determined by the arguments. -/
lemma Given.unique {args : Args} {params : List Shape} {cs cs' : List Content}
    (h : Given args params cs) (h' : Given args params cs') : cs = cs' :=
  List.map_injective_iff.2 (Option.some_injective _) (h.symm.trans h')

/-! ## Outcomes -/

/-- The outcomes of a call of a routine with erased arguments. A wrong number of arguments is
reported before anything else, then the first misfit, and both leave the state as it is. Otherwise
the routine is run once, on what every argument holds, or on the argument itself where the parameter
takes any value. -/
inductive Routine.Answers (r : Routine) (args : Args) (s : State) :
    Except BuildError Value → State → Prop
  | count (hlength : args.length ≠ r.params.length) :
      Answers r args s (.error (.argumentCount r.params.length args.length)) s
  | mismatch {i : Nat} {v : Value} {p : Shape} (hlength : args.length = r.params.length)
      (hleast : IsLeast {i | args.Misfits r.params i} i) (hv : args[i]? = some v)
      (hp : r.params[i]? = some p) :
      Answers r args s (.error (.argumentMismatch i p v.shape)) s
  | result {cs : List Content} {c : Content} {s' : State}
      (hlength : args.length = r.params.length) (hfree : ∀ i, ¬args.Misfits r.params i)
      (hgiven : Given args r.params cs) (hran : r.Ran cs s c s') :
      Answers r args s (.ok (.data c)) s'

namespace Routine

variable {r : Routine} {args : Args} {s s' : State} {x : Except BuildError Value}

/-- Every call has an outcome. -/
lemma exists_answers (r : Routine) (args : Args) (s : State) :
    ∃ x s', r.Answers args s x s' := by
  by_cases hlength : args.length = r.params.length
  · by_cases hmisfit : ∃ i, args.Misfits r.params i
    · classical
      have hleast := Nat.isLeast_find hmisfit
      obtain ⟨v, p, hv, hp, -⟩ := id hleast.1
      exact ⟨_, _, .mismatch hlength hleast hv hp⟩
    · have hfree := not_exists.1 hmisfit
      obtain ⟨cs, hcs, hgiven⟩ := extractAll_of_not_misfits hlength hfree
      exact ⟨_, _, .result hlength hfree hgiven (ran (typed_of_extractAll hcs) s)⟩
  · exact ⟨_, _, .count hlength⟩

/-- A call gives each of its outcomes. -/
lemma Answers.exec_eq (h : r.Answers args s x s') : (r.invoke args).exec s = (x, s') := by
  cases h with
  | count hlength => exact exec_invoke_of_error (if_pos hlength) s
  | mismatch hlength hleast hv hp =>
    refine exec_invoke_of_error ?_ s
    rw [extractAll, if_neg (not_not.2 hlength), extractList_of_isLeast hleast hv hp 0,
      Nat.zero_add]
  | @result cs c _ hlength hfree hgiven hran =>
    obtain ⟨cs', hcs, hgiven'⟩ := extractAll_of_not_misfits hlength hfree
    obtain rfl := hgiven.unique hgiven'
    rw [exec_invoke hcs s, hran.exec_eq]

/-- The outcome of a call is the one that its arguments decide. -/
lemma exec_invoke_iff : (r.invoke args).exec s = (x, s') ↔ r.Answers args s x s' := by
  refine ⟨fun h => ?_, Answers.exec_eq⟩
  obtain ⟨x₀, s₀, hanswers⟩ := r.exists_answers args s
  obtain ⟨rfl, rfl⟩ := Prod.mk.inj (h.symm.trans hanswers.exec_eq)
  exact hanswers

end Routine

/-- **Dynamic calls.** The outcome of a call with any arguments is exactly the one that
`Routine.Answers` says: the wrong number of arguments is reported, or the first misfit with its
position and both shapes, or the routine is run once on what is given, and its result has the
declared result type. So the number of arguments is reported exactly if it is wrong, and arguments
that fit by their shapes, none of them a component type, are enough for a result.

**Proof sketch.** Every call has an outcome (`Routine.exists_answers`), and the call gives it
(`Routine.Answers.exec_eq`): the arguments are looked at in order, and the induction over them stops
at the first misfit (`extractList_of_isLeast`). -/
theorem Value.invoke_callable_iff (r : Routine) (args : Args) (s : State) :
    (∀ x s', ((Value.callable r).invoke args).exec s = (x, s') ↔ r.Answers args s x s') ∧
    ((∃ expected actual s', ((Value.callable r).invoke args).exec s =
      (.error (.argumentCount expected actual), s')) ↔ args.length ≠ r.params.length) ∧
    (args.fits r.params = true ∧ (∀ v ∈ args, v.isComponentType = false) →
      ∃ c s', ((Value.callable r).invoke args).exec s = (.ok (.data c), s') ∧
        c.shape = r.out) := by
  have hinvoke : (Value.callable r).invoke args = r.invoke args := rfl
  rw [hinvoke]
  refine ⟨fun x s' => Routine.exec_invoke_iff, ⟨?_, fun hlength => ?_⟩, ?_⟩
  · rintro ⟨expected, actual, s', h⟩
    cases Routine.exec_invoke_iff.1 h with
    | count hlength => exact hlength
  · exact ⟨_, _, _, (Routine.Answers.count hlength).exec_eq⟩
  · rintro ⟨hfits, hfree⟩
    have hmisfits := Args.not_misfits_of_fits hfits hfree
    have hlength := (Args.fits_iff.1 hfits).length_eq
    obtain ⟨x, s', h⟩ := r.exists_answers args s
    cases h with
    | count hne => exact absurd hlength hne
    | mismatch _ hleast _ _ => exact absurd hleast.1 (hmisfits _)
    | result _ _ hgiven hran => exact ⟨_, _, (Routine.Answers.result hlength hmisfits hgiven
        hran).exec_eq, hran.shape_eq⟩

/-- A component type is given as it is for a parameter that takes any value, but not for one that
asks for component types. -/
theorem Value.invoke_callable_iff_component_types :
    let r (p : Shape) : Routine := .func (.mk [.value, p] .string "f" none [] []) none
    let args : Args := [.componentType .mount, .componentType .mount]
    ((Value.callable (r (.atom .componentType))).invoke args).exec .initial =
      (.error (.argumentMismatch 1 (.atom .componentType) (.atom .componentType)), .initial) ∧
    ∃ s', ((Value.callable (r .value)).invoke args).exec .initial =
      (.ok (.data (.datum (.string "f(<type>,<type>)"))), s') := by
  intro r args
  constructor
  · have hleast : IsLeast {i | args.Misfits (r (.atom .componentType)).params i} 1 := by
      refine ⟨⟨_, _, rfl, rfl, .inr ⟨rfl, rfl⟩⟩, fun i hi => Nat.one_le_iff_ne_zero.2 ?_⟩
      rintro rfl
      exact Args.misfits_cons_zero.1 hi (.inl rfl)
    have hanswers := Routine.Answers.mismatch (s := .initial) rfl hleast rfl rfl
    exact ((invoke_callable_iff (r (.atom .componentType)) args .initial).1 _ _).2 hanswers
  · let given : List Content := [.value (.componentType .mount), .value (.componentType .mount)]
    have htyped : Typed given (r .value).params := .cons rfl (.cons rfl .nil)
    have hfree (i : Nat) : ¬args.Misfits (r .value).params i := by
      match i with
      | 0 => exact fun h => Args.misfits_cons_zero.1 h (.inl rfl)
      | 1 => exact fun h => Args.misfits_cons_zero.1 (Args.misfits_cons_succ.1 h) (.inl rfl)
      | i + 2 => exact Args.not_misfits_nil
    have hgiven : Given args (r .value).params given := rfl
    have hanswers := Routine.Answers.result rfl hfree hgiven (Routine.ran htyped .initial)
    exact ⟨_, ((invoke_callable_iff (r .value) args .initial).1 _ _).2 hanswers⟩

end Pipework
