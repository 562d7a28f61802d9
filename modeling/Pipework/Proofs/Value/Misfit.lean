import Mathlib.Order.Bounds.Basic
import Pipework.Proofs.Value.Typing

set_option autoImplicit false

/-!
# Misfits among the arguments

An argument can be given for a parameter of its shape and for one that takes any value; only a
component type has a shape and cannot be given for it, since there is nothing to take out of it.
Where an argument cannot be given there is a misfit, and the first one is reported.

## Main definitions

* `Args.Misfits` — a position at which an argument cannot be given.

## Main results

* `Args.not_misfits_of_fits` — arguments that fit have no misfit, but for component types.
* `extractList_of_isLeast` — the first misfit is reported, with its position and both shapes.
-/

namespace Pipework

/-! ## Misfits -/

/-- At a position the argument cannot be given for the parameter: it has another shape and the
parameter does not take any value, or it is a component type for a parameter that asks for one. -/
def Args.Misfits (args : Args) (params : List Shape) (i : Nat) : Prop :=
  ∃ v p, args[i]? = some v ∧ params[i]? = some p ∧
    (v.shape ≠ p ∧ p ≠ .value ∨ v.isComponentType = true ∧ p = .atom .componentType)

/-- A component type has the shape of component types, whatever it makes. -/
lemma Value.shape_of_isComponentType {v : Value} (h : v.isComponentType = true) :
    v.shape = .atom .componentType := by
  cases v with
  | componentType t => rfl
  | _ => cases h

/-- A value does not give a type if it is not of it, or because it is a component type. -/
lemma Value.not_gives_iff {v : Value} {p : Shape} :
    ¬v.Gives p ↔
      v.shape ≠ p ∧ p ≠ .value ∨ v.isComponentType = true ∧ p = .atom .componentType := by
  constructor
  · intro h
    obtain ⟨hp, hshape⟩ := not_or.1 h
    by_cases hs : v.shape = p
    · have hv : v.isComponentType = true := by simpa [hs] using hshape
      exact .inr ⟨hv, hs.symm.trans (shape_of_isComponentType hv)⟩
    · exact .inl ⟨hs, hp⟩
  · rintro (⟨hs, hp⟩ | ⟨hv, rfl⟩) (hp' | ⟨hs', hv'⟩)
    · exact hp hp'
    · exact hs hs'
    · cases hp'
    · simp [hv] at hv'

namespace Args

variable {v : Value} {args : Args} {p : Shape} {params : List Shape} {i : Nat}

/-- Without arguments there is no misfit. -/
@[simp] lemma not_misfits_nil : ¬Misfits [] params i := by
  rintro ⟨v, p, hv, -⟩
  cases hv

/-- The first argument is a misfit if it does not give its parameter. -/
@[simp] lemma misfits_cons_zero : Misfits (v :: args) (p :: params) 0 ↔ ¬v.Gives p := by
  rw [Value.not_gives_iff]
  constructor
  · rintro ⟨v', p', hv, hp, h⟩
    cases hv
    cases hp
    exact h
  · exact fun h => ⟨v, p, rfl, rfl, h⟩

/-- The other arguments are misfits as they are without the first one. -/
@[simp] lemma misfits_cons_succ :
    Misfits (v :: args) (p :: params) (i + 1) ↔ Misfits args params i := Iff.rfl

/-- Without a misfit every parameter can be filled from its argument. -/
lemma gives_of_not_misfits (hlength : args.length = params.length)
    (h : ∀ i, ¬Misfits args params i) : List.Forall₂ Value.Gives args params := by
  refine List.forall₂_iff_get.2 ⟨hlength, fun i hi hi' => ?_⟩
  by_contra hgives
  exact h i ⟨_, _, List.getElem?_eq_getElem hi, List.getElem?_eq_getElem hi',
    Value.not_gives_iff.1 hgives⟩

/-- A value from which a parameter can be filled fits it. -/
lemma fits_of_gives (h : List.Forall₂ Value.Gives args params) : args.fits params = true := by
  refine fits_iff.2 (h.imp fun v p hgives => ?_)
  obtain rfl | ⟨rfl, -⟩ := hgives <;> simp [Value.fits]

/-- Arguments that fit have no misfit, unless there is a component type among them. -/
lemma not_misfits_of_fits (h : args.fits params = true)
    (hfree : ∀ v ∈ args, v.isComponentType = false) (i : Nat) : ¬Misfits args params i := by
  rintro ⟨v, p, hv, hp, hmisfit⟩
  have hgives := List.forall₂_iff_get.1 (gives_of_fits h (.inl hfree))
  obtain ⟨hi, rfl⟩ := List.getElem?_eq_some_iff.1 hv
  obtain ⟨hi', rfl⟩ := List.getElem?_eq_some_iff.1 hp
  exact Value.not_gives_iff.2 hmisfit (hgives.2 i hi hi')

end Args

/-! ## What is taken from the arguments -/

/-- What cannot be given is reported with the position and both shapes. -/
lemma extractFrom_of_not_gives {v : Value} {p : Shape} (h : ¬v.Gives p) (index : Nat) :
    extractFrom index v p = .error (.argumentMismatch index p v.shape) := by
  obtain ⟨hp, hshape⟩ := not_or.1 h
  have hget : v.get? p = none := by
    rw [Value.get?, Option.bind_eq_none_iff]
    intro c hc
    rw [if_neg]
    intro hcp
    refine hshape ⟨(v.shape_of_mem_content? hc).symm.trans hcp, ?_⟩
    cases v with
    | componentType t => cases hc
    | _ => rfl
  rw [extractFrom, if_neg hp, hget]

/-- The first misfit is reported. Nothing is asked about what comes after it. -/
lemma extractList_of_isLeast {args : Args} {params : List Shape} {i : Nat}
    (hleast : IsLeast {i | Args.Misfits args params i} i) {v : Value} {p : Shape}
    (hv : args[i]? = some v) (hp : params[i]? = some p) :
    ∀ index, extractList index params args =
      .error (.argumentMismatch (index + i) p v.shape) := by
  induction args generalizing params i with
  | nil => cases hv
  | cons w args ih =>
    intro index
    cases params with
    | nil => cases hp
    | cons q params =>
      cases i with
      | zero =>
        cases hv
        cases hp
        rw [extractList, extractFrom_of_not_gives (Args.misfits_cons_zero.1 hleast.1)]
        rfl
      | succ j =>
        -- the first argument can be given, and `j` is the first misfit among the others
        have hfirst : w.Gives q := by
          by_contra hw
          exact absurd (hleast.2 (Args.misfits_cons_zero.2 hw)) (Nat.not_succ_le_zero j)
        have hrest : IsLeast {i | Args.Misfits args params i} j :=
          ⟨hleast.1, fun k hk => Nat.le_of_succ_le_succ (hleast.2 (Args.misfits_cons_succ.2 hk))⟩
        obtain ⟨c, hc, -⟩ := extractFrom_of_gives hfirst index
        simp only [extractList, hc, ih hrest hv hp (index + 1), Nat.add_right_comm index 1 j,
          Nat.add_assoc]

end Pipework
