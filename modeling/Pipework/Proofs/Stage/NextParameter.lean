import Pipework.Proofs.Conversion.Account
import Pipework.Proofs.Stage.Output

set_option autoImplicit false

/-!
# The next app between the check and the conversion

Two tests guard the parameter of a stage that is for the next app. When the stage is resolved and
when it is applied, a value fits if it has the shape of the parameter or if the parameter takes any
value. When the stage is put around an app, the app is converted to the convention of the stage
first, and a conversion compares handles. The tests differ on one parameter, the erased value: every
app fits it, but only an erased value is handed to it as it is.

## Main definitions

* `Value.StaysIn` — a conversion that gives the value back and runs no converter.

## Main results

* `Value.exists_converter_of_convert` — what comes from a conversion to the erased type was made by
  a converter.
* `Stage.staysIn_next_iff` — a value that fits the parameter for the next app is handed to it as it
  is exactly when it has the shape of the parameter.
-/

namespace Pipework

/-! ## Conversions that change nothing -/

namespace Value

/-- The conversion to `t` in a registry gives the value back and runs no converter. It is reported
and counted, under no edges, and otherwise leaves the state as it is. -/
def StaysIn (v : Value) (k : RegistryId) (t : Convention) (s : State) : Prop :=
  (convertIn k v t).exec s = (.ok v, { s with
    events := s.events ++ [.converted v.shape t 0]
    tally := s.tally.raise (.conversion 0) 1 })

/-- A value that has the handle of a convention stays what it is, whatever the registry holds. -/
lemma staysIn_of_shape {v : Value} {t : Convention} (h : v.shape = t.handle) (k : RegistryId)
    (s : State) : v.StaysIn k t s := by
  have hsat : v.satisfies t = true := by simp [satisfies, Convention.isSatisfiedBy, h]
  have hsearch (edges : List Conversion) : search edges v t = pure (some (v, 0)) := by
    rw [search, oneHop, if_pos hsat]
    rfl
  rw [StaysIn, convertIn, Assembly.exec_get_bind, convert, hsearch]
  rfl

/-- Where a trail starts is the value itself or one of the callable `Invoke` operations. -/
lemma origin_eq_or (v : Value) (w : Trail) :
    w.origin v = v ∨ ∃ o ∈ v.invokes, o.value = w.origin v := by
  unfold Trail.origin
  cases w.start with
  | none => exact .inl rfl
  | some h =>
    cases hfind : v.invokes.find? fun o => o.value.shape = h with
    | none => exact .inl (by simp [hfind])
    | some o => exact .inr ⟨o, List.mem_of_find?_eq_some hfind, by simp [hfind]⟩

/-- The erased type is no function type. -/
lemma shape_ne_value_of_mem_invokes {v : Value} {o : Operation} (h : o ∈ v.invokes) :
    o.value.shape ≠ .value := by
  intro hshape
  have hcallable : o.convention.isCallable = true := (List.mem_filter.1 h).2
  rw [Operation.convention, hshape] at hcallable
  cases hcallable

/-- A trail along some edges gives what the last of them makes. -/
lemma exists_last_of_run {w : Trail} {v out : Value} {s s' : State}
    (h : (w.run v).exec s = (.ok out, s')) (hedges : w.edges ≠ []) :
    ∃ c ∈ w.edges, ∃ u s₁, (c.apply u).exec s₁ = (.ok out, s') := by
  obtain ⟨cs, c, hcs⟩ := (List.eq_nil_or_concat w.edges).resolve_left hedges
  rw [Trail.run, hcs, List.concat_eq_append, List.foldlM_append] at h
  obtain ⟨u, s₁, -, hlast⟩ := Assembly.exists_of_exec_bind h
  refine ⟨c, by simp [hcs], u, s₁, ?_⟩
  simpa using hlast

section Erased

variable {edges : List Conversion} (hedges : ∀ c ∈ edges, c.Sound) {v : Value}
  (hv : v.shape ≠ .value)
include hedges hv

/-- A value that is not erased becomes erased only at the end of a converter. -/
lemma exists_converter_of_convert {out : Value} {s s' : State}
    (h : (convert edges v (.object .value)).exec s = (.ok out, s')) :
    ∃ c ∈ edges, c.target = .value ∧ ∃ u s₀ s₁, (c.apply u).exec s₀ = (.ok out, s₁) := by
  have hout : out.shape = .value := shape_of_convert hedges h
  rcases exec_convert edges v (.object .value) s with
    ⟨w, out', s₀, s₁, hserves, hrun, -, hconvert⟩ | ⟨s₁, -, hconvert⟩ | ⟨e, s₁, -, -, hconvert⟩
  · cases hconvert.symm.trans h
    -- a trail without edges ends where it starts, and nothing there is erased
    have hne : w.edges ≠ [] := by
      intro hnil
      have horigin : w.origin v = out := by
        rw [Trail.run, hnil] at hrun
        cases hrun
        rfl
      rcases v.origin_eq_or w with hstart | ⟨o, ho, hstart⟩
      · exact hv (by rw [← hout, ← horigin, hstart])
      · exact shape_ne_value_of_mem_invokes ho (by rw [hstart, horigin, hout])
    obtain ⟨c, hc, u, s₂, happly⟩ := exists_last_of_run hrun hne
    have hmem := hserves.subset c hc
    obtain ⟨k, rfl, hk⟩ := Routine.exists_of_invoke happly
    exact ⟨c, hmem, by rw [← (hedges c hmem).out_eq, ← hk]; exact hout, u, s₂, s₁, happly⟩
  · cases hconvert.symm.trans h
  · cases hconvert.symm.trans h

/-- Without an edge to the erased type a value that is not erased has no way there. -/
lemma convert_of_no_converter (htarget : ∀ c ∈ edges, c.target ≠ .value) (s : State) :
    ∃ e s', (convert edges v (.object .value)).exec s = (.error e, s') ∧
      (v.isComponentType = false → e = .noConversion v.shape (.object .value)) := by
  rcases hconvert : (convert edges v (.object .value)).exec s with ⟨e | out, s'⟩
  · refine ⟨e, s', rfl, fun hct => ?_⟩
    cases hplan : v.outline.plan? edges .value with
    | none =>
      obtain ⟨s'', hfails⟩ := convert_of_no_plan hedges hct (t := .object .value) hplan s
      cases hconvert.symm.trans hfails
      rfl
    | some w =>
      obtain ⟨out, s'', hout, -⟩ := convert_of_plan hedges hct (t := .object .value) hplan s
      cases hconvert.symm.trans hout
  · obtain ⟨c, hc, hvalue, -⟩ := exists_converter_of_convert hedges hv hconvert
    exact absurd hvalue (htarget c hc)

end Erased

end Value

/-! ## Handing over the next app -/

/-- A builder does not get past a last stage that its terminal app cannot be converted for. -/
lemma Builder.buildValue_error_of_last {b : Builder} {st : Stage} {s s' : State} {e : BuildError}
    (hlast : b.stages.getLast? = some st)
    (h : (convertIn b.conversions (b.terminal s) st.convention).exec s = (.error e, s'))
    (t : Convention) : (b.buildValue t).exec s = (.error e, s') := by
  obtain ⟨before, hstages⟩ := List.getLast?_eq_some_iff.1 hlast
  have hfold : (fold b.conversions b.stages.reverse (b.terminal s)).exec s = (.error e, s') := by
    rw [hstages, List.reverse_append]
    exact Assembly.exec_bind_error h
  rw [buildValue, Assembly.exec_get_bind]
  exact Assembly.exec_bind_error hfold

namespace Stage

/-- A function of any value that gives an app. -/
def takingAny (label : String) : Stage where
  convention := .object .value
  factory := .callable (.func (.mk [.value] (.app .func) label none [] []) none)
  args := []
  kind := .callableFactory
  description := "callable fn(Value) -> AppFunc"

/-- A function that takes any value and gives an app describes a stage. -/
lemma resolve_takingAny (label : String) :
    resolve (.callable (.func (.mk [.value] (.app .func) label none [] []) none)) [] =
      .ok (takingAny label) := rfl

/-- **Who is handed to the next parameter as it is.** A stage that has been resolved declares the
shape of its first parameter. Let a value fit that parameter, so that the stage takes it together
with the extra arguments. In every filled registry the conversion to the declared convention gives
the value back and runs no converter exactly when the value has the shape of the parameter. Any
other value fits because the parameter takes any value; it is never given back, a converter to the
erased type has to make something else of it, and where the registry has none the conversion fails:
then no builder can be built whose last stage this is and whose terminal app is that value.

**Proof sketch.** The first parameter is what the choice of a stage declares (`Resolved.sound`). A
value with the declared handle is found at once (`Value.staysIn_of_shape`), and a conversion gives
nothing but values of that handle (`shape_of_convert`). Towards the erased type there is neither a
value nor an operation of a component to end a trail without edges
(`Value.exists_converter_of_convert`). -/
theorem staysIn_next_iff {d : Value} {args : Args} {st : Stage} (h : resolve d args = .ok st) :
    ∃ p rest, st.factory.params = p :: rest ∧ st.convention = .object p ∧
      ∀ (k : RegistryId) (s : State) (v : Value), (s.registry k).Filled → v.fits p = true →
        Args.fits (v :: st.args) (p :: rest) = true ∧
        (v.StaysIn k st.convention s ↔ v.shape = p) ∧
        (v.shape ≠ p → p = .value ∧
          (∀ out s', (convertIn k v st.convention).exec s = (.ok out, s') →
            out ≠ v ∧ ∃ c ∈ (s.registry k).edges, c.target = .value ∧
              ∃ u s₀ s₁, (c.apply u).exec s₀ = (.ok out, s₁)) ∧
          ((∀ c ∈ (s.registry k).edges, c.target ≠ .value) →
            ∃ e s', (convertIn k v st.convention).exec s = (.error e, s') ∧
              (v.isComponentType = false → e = .noConversion v.shape (.object .value)) ∧
              ∀ b : Builder, b.conversions = k → b.stages.getLast? = some st → b.terminal s = v →
                ∀ t, (b.buildValue t).exec s = (.error e, s'))) := by
  obtain ⟨hfits, hconvention, -⟩ := Resolved.sound ⟨d, args, h⟩
  obtain ⟨p, rest, hparams, hrest⟩ := exists_params hfits
  have hconvention : st.convention = .object p := by rw [hconvention, hparams]; rfl
  refine ⟨p, rest, hparams, hconvention, fun k s v hfilled hv => ?_⟩
  have hsound := hfilled.sound
  have hconvert : (convertIn k v st.convention).exec s =
      (convert (s.registry k).edges v (.object p)).exec s := by
    rw [convertIn, Assembly.exec_get_bind, hconvention]
  refine ⟨?_, ⟨fun hstays => ?_, fun hshape => ?_⟩, fun hne => ?_⟩
  · rw [Args.fits_iff] at hrest ⊢
    exact .cons hv hrest
  · exact shape_of_convert hsound (hconvert.symm.trans hstays)
  · exact Value.staysIn_of_shape (by rw [hconvention]; exact hshape) k s
  · obtain rfl : p = .value := by
      simp only [Value.fits, Bool.or_eq_true, decide_eq_true_eq] at hv
      exact hv.resolve_left hne
    rw [hconvert]
    refine ⟨rfl, fun out s' hout => ⟨?_, Value.exists_converter_of_convert hsound hne hout⟩,
      fun htarget => ?_⟩
    · rintro rfl
      exact hne (shape_of_convert hsound hout)
    · obtain ⟨e, s', hfails, he⟩ := Value.convert_of_no_converter hsound hne htarget s
      refine ⟨e, s', hfails, he, ?_⟩
      rintro b rfl hlast rfl t
      exact Builder.buildValue_error_of_last hlast (hconvert.trans hfails) t

/-- The app at the end of a pipeline without any other fits a stage of any value, but in a registry
with the built-in conversions it cannot be handed to it, and nothing can be built. -/
theorem staysIn_next_iff_takingAny :
    notFoundValue.fits .value = true ∧ (∀ t, ∃ s',
      (Builder.buildValue ⟨0, 0, [takingAny "w"]⟩ t).exec (.fresh 0) =
        (.error (.noConversion .appFunc (.object .value)), s')) := by
  refine ⟨rfl, fun t => ?_⟩
  obtain ⟨p, rest, hparams, -, hnext⟩ := staysIn_next_iff (resolve_takingAny "w")
  cases hparams
  obtain ⟨-, -, hother⟩ := hnext 0 (.fresh 0) notFoundValue Registry.builtin_filled rfl
  obtain ⟨-, -, hnone⟩ := hother (by decide)
  obtain ⟨e, s', -, he, hbuild⟩ := hnone (by decide)
  cases he rfl
  exact ⟨s', hbuild ⟨0, 0, [takingAny "w"]⟩ rfl rfl rfl t⟩

end Stage

end Pipework
