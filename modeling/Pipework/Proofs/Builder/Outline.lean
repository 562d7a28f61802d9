import Pipework.Proofs.Conversion.Plan
import Pipework.Proofs.Engine.Frame
import Pipework.Proofs.Stage.Output

set_option autoImplicit false

/-!
# Whether a pipeline builds is known in advance

Building a pipeline runs converters and stages, and any of the conversions in between may fail.
Which of them does can be told without running anything, from the outlines of the terminal app and
of what the stages make, as long as the registry does not change while the pipeline is put together.

## Main definitions

* `Outline.bring` — a conversion of an outline.
* `Outline.fold`, `Outline.build` — putting the stages around an outline.
* `Shows` — an outcome and the outline that was foretold for it.

## Main results

* `Builder.fold_shows` — the fold over the stages has the outcome that was foretold.
* `Builder.buildValue_ok_iff_outline` — so has the whole build.
-/

namespace Pipework

/-! ## Putting outlines together -/

namespace Outline

variable (edges : List Conversion)

/-- Brings an outline to a convention, if there is a plan. -/
def bring (x : Outline) (t : Convention) : Except BuildError Outline :=
  if (x.plan? edges t.handle).isSome then .ok (x.arrive t.handle)
  else .error (.noConversion x.shape t)

/-- Puts stages around the outline of an app, the last stage of the list first. -/
def fold : (reversed : List Stage) → Outline → Except BuildError Outline
  | [], x => .ok x
  | st :: rest, x => do
    let _ ← x.bring edges st.convention
    let made ← st.factory.output.bring edges st.convention
    fold rest made

/-- Puts stages around the outline of a terminal app and brings it to a convention. -/
def build (stages : List Stage) (terminal : Outline) (t : Convention) :
    Except BuildError Outline := do
  let x ← fold edges stages.reverse terminal
  x.bring edges t

variable {edges}

/-- A conversion that has a plan leads to its handle. -/
lemma shape_of_bring {x y : Outline} {t : Convention} (h : x.bring edges t = .ok y) :
    y.shape = t.handle := by
  unfold bring at h
  split at h
  · cases h
    exact shape_arrive x t.handle
  · cases h

/-- The only failure is that there is no conversion. -/
lemma error_of_bring {x : Outline} {t : Convention} {e : BuildError}
    (h : x.bring edges t = .error e) : ∃ source target, e = .noConversion source target := by
  unfold bring at h
  split at h
  · cases h
  · cases h
    exact ⟨_, _, rfl⟩

/-- A fold over outlines fails only because a conversion is not found. -/
lemma error_of_fold {stages : List Stage} {x : Outline} {e : BuildError}
    (h : x.fold edges stages = .error e) : ∃ source target, e = .noConversion source target := by
  induction stages generalizing x with
  | nil => cases h
  | cons st rest ih =>
    unfold fold at h
    cases hnext : x.bring edges st.convention with
    | error e' =>
      rw [hnext] at h
      cases h
      exact error_of_bring hnext
    | ok next =>
      rw [hnext] at h
      cases hmade : st.factory.output.bring edges st.convention with
      | error e' =>
        rw [hmade] at h
        cases h
        exact error_of_bring hmade
      | ok made =>
        rw [hmade] at h
        exact ih h

/-- The outline that is built has the shape of the target. -/
lemma shape_of_build {stages : List Stage} {x y : Outline} {t : Convention}
    (h : build edges stages x t = .ok y) : y.shape = t.handle := by
  unfold build at h
  cases hfold : x.fold edges stages.reverse with
  | error e =>
    rw [hfold] at h
    cases h
  | ok z =>
    rw [hfold] at h
    exact shape_of_bring h

/-- A build of outlines fails only because a conversion is not found. -/
lemma error_of_build {stages : List Stage} {x : Outline} {t : Convention} {e : BuildError}
    (h : build edges stages x t = .error e) : ∃ source target, e = .noConversion source target := by
  unfold build at h
  cases hfold : x.fold edges stages.reverse with
  | error e' =>
    rw [hfold] at h
    cases h
    exact error_of_fold hfold
  | ok z =>
    rw [hfold] at h
    exact error_of_bring h

end Outline

/-! ## Outcomes that were foretold -/

/-- An outcome is what was foretold: a value of the outline, or the very error. -/
inductive Shows : Except BuildError Value → Except BuildError Outline → Prop
  | ok {v : Value} (hv : v.isComponentType = false) : Shows (.ok v) (.ok v.outline)
  | error (e : BuildError) : Shows (.error e) (.error e)

/-- A sequence has the outcome that was foretold if both of its parts have. -/
lemma Shows.bind {x : Assembly Value} {y : Except BuildError Outline} {f : Value → Assembly Value}
    {g : Outline → Except BuildError Outline} {s : State} (hx : Shows (x.exec s).1 y)
    (hf : ∀ v s₁, x.exec s = (.ok v, s₁) → y = .ok v.outline → v.isComponentType = false →
      Shows ((f v).exec s₁).1 (g v.outline)) : Shows ((x >>= f).exec s).1 (y >>= g) := by
  rcases hexec : x.exec s with ⟨e | v, s₁⟩
  · rw [hexec] at hx
    rw [Assembly.exec_bind_error hexec]
    cases hx
    exact .error e
  · rw [hexec] at hx
    rw [Assembly.exec_bind_ok hexec]
    generalize hy : y = y' at hx
    cases hx with
    | ok hv => exact hf v s₁ hexec hy hv

/-- A conversion has the outcome that its plan foretells. -/
lemma convertIn_shows {k : RegistryId} {s : State} (hr : (s.registry k).Filled) {v : Value}
    (hv : v.isComponentType = false) (t : Convention) :
    Shows ((convertIn k v t).exec s).1 (v.outline.bring (s.registry k).edges t) := by
  rw [convertIn, Assembly.exec_get_bind, Outline.bring]
  cases hplan : v.outline.plan? (s.registry k).edges t.handle with
  | none =>
    obtain ⟨s', h⟩ := convert_of_no_plan hr.sound hv hplan s
    simpa [h] using Shows.error _
  | some w =>
    obtain ⟨out, s', h, hout, hct⟩ := convert_of_plan hr.sound hv hplan s
    simpa [h, hout] using Shows.ok hct

namespace Builder

/-- The stages are put around an app as was foretold.

**Proof sketch.** Induction on the stages. What is brought to the convention of a stage has its
handle (`Outline.shape_arrive`), so that the stage does not fail (`Stage.apply_yields`) and only the
two conversions around it can. Nothing is registered on the way, so that every conversion sees
the edges of the beginning. -/
lemma fold_shows {k : RegistryId} {r : Registry} (hr : r.Filled) {stages : List Stage}
    (hstages : ∀ st ∈ stages, st.Sound)
    (hargs : ∀ st ∈ stages, ∀ v ∈ st.args, v.isComponentType = false) {app : Value} {s : State}
    (hs : s.registry k = r) (happ : app.isComponentType = false)
    (hquiet : ((fold k stages app).exec s).2.registrations = s.registrations) :
    Shows ((fold k stages app).exec s).1 (Outline.fold r.edges stages app.outline) := by
  induction stages generalizing app s with
  | nil => exact .ok happ
  | cons st rest ih =>
    have hst := hstages st List.mem_cons_self
    have happly := fun next : Value => (st.frames_apply next).mono (Set.subset_univ _)
    have hafter := fun made : Value =>
      (frames_convertIn k made st.convention).bind fun app => frames_fold k rest app
    have hwhole := fun next : Value => (happly next).bind hafter
    unfold fold Outline.fold
    unfold fold at hquiet
    -- the next app comes to the convention of the stage
    refine Shows.bind (hs ▸ convertIn_shows (hs ▸ hr) happ st.convention)
      fun next s₁ hnext hbring hct => ?_
    obtain ⟨hreg, hquiet⟩ := (frames_convertIn k app _).quiet_of_bind hwhole hnext hquiet
    have hs₁ : s₁.registry k = r := (hreg k).trans hs
    -- the stage is applied
    obtain ⟨made, s₂, hmade, hout, hct'⟩ := Stage.apply_yields hst
      (Stage.gives_args hst (hargs st List.mem_cons_self)) (Outline.shape_of_bring hbring) hct s₁
    obtain ⟨hreg, hquiet⟩ := (happly next).quiet_of_bind hafter hmade hquiet
    have hs₂ : s₂.registry k = r := (hreg k).trans hs₁
    -- what it makes comes to the convention again
    rw [Assembly.exec_bind_ok hmade, ← hout]
    refine Shows.bind (hs₂ ▸ convertIn_shows (hs₂ ▸ hr) hct' st.convention)
      fun app s₃ happ _ hct => ?_
    obtain ⟨hreg, hquiet⟩ :=
      (frames_convertIn k made _).quiet_of_bind (frames_fold k rest) happ hquiet
    exact ih (fun st h => hstages st (List.mem_cons_of_mem _ h))
      (fun st h => hargs st (List.mem_cons_of_mem _ h)) ((hreg k).trans hs₂) hct hquiet

/-- A whole build has the outcome that was foretold. -/
lemma buildValue_shows {b : Builder} {t : Convention} {s : State}
    (hregistry : (s.registry b.conversions).Filled) (hstages : ∀ st ∈ b.stages, st.Resolved)
    (hargs : ∀ st ∈ b.stages, ∀ v ∈ st.args, v.isComponentType = false)
    (hterminal : (b.terminal s).isComponentType = false)
    (hquiet : ((b.buildValue t).exec s).2.registrations = s.registrations) :
    Shows ((b.buildValue t).exec s).1
      (Outline.build (s.registry b.conversions).edges b.stages (b.terminal s).outline t) := by
  unfold buildValue Outline.build
  rw [Assembly.exec_get_bind]
  unfold buildValue at hquiet
  rw [Assembly.exec_get_bind] at hquiet
  have hafter := fun app : Value =>
    (frames_convertIn b.conversions app t).bind (frames_reportBuilt b.stages.length t)
  have hall := frames_fold b.conversions b.stages.reverse (b.terminal s)
  refine Shows.bind (fold_shows hregistry (fun st h => (hstages st (List.mem_reverse.1 h)).sound)
    (fun st h => hargs st (List.mem_reverse.1 h)) rfl hterminal
    (hall.quiet_first hafter hquiet))
    fun app s₁ happ _ hct => ?_
  obtain ⟨hreg, -⟩ := hall.quiet_of_bind hafter happ hquiet
  rw [← hreg b.conversions, ← bind_pure (Outline.bring _ _ _)]
  refine Shows.bind (convertIn_shows (hreg b.conversions ▸ hregistry) hct t)
    fun out s₂ _ _ hct => ?_
  simp only [Assembly.exec_lift_bind]
  exact .ok hct

/-- **Whether a pipeline builds is decided by shapes alone.** As long as the functions that the
build runs register no conversions, the build succeeds exactly if it does so for the outlines. What
it gives then has the outline that was foretold, and the handle of the target; and the only
failure is the missing conversion that was foretold. -/
theorem buildValue_ok_iff_outline {b : Builder} {t : Convention} {s : State}
    (hregistry : (s.registry b.conversions).Filled) (hstages : ∀ st ∈ b.stages, st.Resolved)
    (hargs : ∀ st ∈ b.stages, ∀ v ∈ st.args, v.isComponentType = false)
    (hterminal : (b.terminal s).isComponentType = false)
    (hquiet : ((b.buildValue t).exec s).2.registrations = s.registrations) :
    let foretold :=
      Outline.build (s.registry b.conversions).edges b.stages (b.terminal s).outline t
    ((∃ out, ((b.buildValue t).exec s).1 = .ok out) ↔ ∃ x, foretold = .ok x) ∧
      (∀ out, ((b.buildValue t).exec s).1 = .ok out →
        out.shape = t.handle ∧ foretold = .ok out.outline) ∧
      ∀ e, ((b.buildValue t).exec s).1 = .error e →
        (∃ source target, e = .noConversion source target) ∧ foretold = .error e := by
  intro foretold
  have h : Shows ((b.buildValue t).exec s).1 foretold :=
    buildValue_shows hregistry hstages hargs hterminal hquiet
  generalize ((b.buildValue t).exec s).1 = res at h
  generalize hf : foretold = f at h
  cases h with
  | @ok v hv =>
    have hshape : v.outline.shape = t.handle := Outline.shape_of_build hf
    simpa using hshape
  | error e =>
    obtain ⟨source, target, rfl⟩ := Outline.error_of_build hf
    simp

/-- A component that is told the next app stays a component until the function around it asks for an
object. -/
theorem buildValue_ok_iff_outline_wired :
    ∃ out, (((⟨0, 0, [.wrapping "f" 7, .wired "g" 0]⟩ : Builder).buildValue
      (.object .dynApp)).exec (State.fresh 1)).1 = .ok out ∧ out.shape = .dynApp := by
  obtain ⟨hiff, hshape, -⟩ :=
    buildValue_ok_iff_outline (b := ⟨0, 0, [.wrapping "f" 7, .wired "g" 0]⟩)
      (t := .object .dynApp) (s := State.fresh 1) Registry.builtin_filled
      (List.forall_mem_cons.2 ⟨Stage.wrapping_resolved _ _,
        List.forall_mem_singleton.2 (Stage.wired_resolved _ _)⟩)
      (List.forall_mem_cons.2 ⟨List.forall_mem_singleton.2 rfl,
        List.forall_mem_singleton.2 (List.forall_mem_nil _)⟩)
      rfl rfl
  obtain ⟨out, hout⟩ := hiff.2 ⟨_, rfl⟩
  exact ⟨out, hout, (hshape out hout).1⟩

end Builder

end Pipework
