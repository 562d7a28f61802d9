import Pipework.Proofs.Builder.Account
import Pipework.Proofs.Workshop.Basic

set_option autoImplicit false

/-!
# The account of a program

Whatever a program does, the counters say how many stages it has added and how they were written.
Together with the account of a build they tell exactly what has happened.

## Main definitions

* `State.CountsStages` — what was added between two states has been counted.

## Main results

* `Builder.exec_build_error_iff` — builds fail alike, whatever handle is taken at the end.
* `Act.countsStages`, `Work.countsStages_mount` — single steps.
* `Course.countsStages` — whole programs.
* `Workshop.counters_account` — the account of builds and programs.
-/

namespace Pipework

/-! ## Builds of handles -/

namespace Builder

variable (b : Builder)

/-- Taking the handle of what was built changes nothing. -/
lemma exec_build_snd (type : Shape) (s : State) :
    ((b.build type).exec s).2 = ((b.buildValue (Convention.ofShape type)).exec s).2 := by
  rcases h : (b.buildValue (Convention.ofShape type)).exec s with ⟨e | v, s'⟩
  · rw [build, Assembly.exec_bind_error h]
  · rw [build, Assembly.exec_bind_ok h]
    cases v.get? type <;> rfl

/-- Building an app leaves what building a function of the environment leaves. -/
lemma exec_buildApp_snd (s : State) : (b.buildApp.exec s).2 = ((b.build .appFunc).exec s).2 := by
  rcases h : (b.build .appFunc).exec s with ⟨e | c, s'⟩
  · rw [buildApp, Assembly.exec_bind_error h]
  · rw [buildApp, Assembly.exec_bind_ok h]
    cases c <;> rfl

/-- Building an app fails exactly as building a function of the environment does. -/
lemma exec_buildApp_error_iff (s s' : State) (e : BuildError) :
    b.buildApp.exec s = (.error e, s') ↔ (b.build .appFunc).exec s = (.error e, s') := by
  rcases h : (b.build .appFunc).exec s with ⟨e | c, s'⟩
  · simp [buildApp, Assembly.exec_bind_error h]
  · rw [buildApp, Assembly.exec_bind_ok h]
    cases c <;> constructor <;> intro h <;> cases h

variable {b}

/-- What a build gives has the handle of its target. -/
lemma shape_of_buildValue {t : Convention} {s s' : State} {out : Value}
    (hregistry : (s.registry b.conversions).Filled)
    (h : (b.buildValue t).exec s = (.ok out, s')) : out.shape = t.handle := by
  rw [buildValue, Assembly.exec_get_bind] at h
  obtain ⟨app, s₁, hfold, h⟩ := Assembly.exists_of_exec_bind h
  obtain ⟨out', s₂, hconvert, h⟩ := Assembly.exists_of_exec_bind h
  cases h
  -- what the stages have registered leaves the registry filled
  have hframe := frames_fold b.conversions b.stages.reverse (b.terminal s) s
  rw [hfold] at hframe
  obtain ⟨l, hregisters⟩ := hframe.exists_registers
  rw [convertIn, Assembly.exec_get_bind] at hconvert
  exact shape_of_convert (hregisters.filled hregistry).sound hconvert

/-- A build of a handle fails exactly if there is no value to take it from, and for the same reason.
Types of components have no handles. -/
lemma exec_build_error_iff {type : Shape} {s : State}
    (hregistry : (s.registry b.conversions).Filled) (htype : type ≠ .atom .componentType)
    (e : BuildError) (s' : State) :
    (b.build type).exec s = (.error e, s') ↔
      (b.buildValue (Convention.ofShape type)).exec s = (.error e, s') := by
  rcases h : (b.buildValue (Convention.ofShape type)).exec s with ⟨e' | v, s₁⟩
  · simp [build, Assembly.exec_bind_error h]
  · have hshape : v.shape = type :=
      (shape_of_buildValue hregistry h).trans (Convention.handle_ofShape type)
    have hplain : v.isComponentType = false := by
      cases v with
      | componentType t => exact absurd hshape.symm htype
      | _ => rfl
    obtain ⟨c, hc, hcs⟩ := Value.exists_content hplain
    have hget : v.get? type = some c := by
      rw [Value.get?, hc, Option.bind_some]
      exact if_pos (hcs.trans hshape)
    rw [build, Assembly.exec_bind_ok h, hget]
    constructor <;> intro h <;> cases h

end Builder

/-! ## Stages that were counted -/

/-- From the first state to the second one, the stages that are written in the ways that are listed
have been counted, and no other ones. -/
def State.CountsStages (l : List StageKind) (s s' : State) : Prop :=
  ∀ k, s'.tally.count (.stage k) = s.tally.count (.stage k) + l.count k

namespace State.CountsStages

variable {l l' : List StageKind} {s s₁ s' : State}

/-- Where no counter changes, no stages are counted. -/
lemma of_tally_eq (h : s'.tally = s.tally) : CountsStages [] s s' := by
  intro k
  rw [h, List.count_nil, Nat.add_zero]

/-- Stages of steps one after the other are counted together. -/
lemma trans (h : CountsStages l s s₁) (h' : CountsStages l' s₁ s') :
    CountsStages (l ++ l') s s' := by
  intro k
  rw [h' k, h k, List.count_append, Nat.add_assoc]

/-- A stage that is counted. -/
lemma stage {k : StageKind} (h : s'.tally = s.tally.raise (.stage k) 1) :
    CountsStages [k] s s' := by
  intro k'
  rw [h, Tally.count_raise, List.count_singleton]
  congr 1
  by_cases hk : k' = k
  · simp [hk]
  · simp [hk, Ne.symm hk]

end State.CountsStages

/-- A conversion counts no stage. -/
lemma countsStages_convert (edges : List Conversion) (v : Value) (t : Convention) (s : State) :
    s.CountsStages [] ((convert edges v t).exec s).2 := by
  intro k
  obtain ⟨w, out, s₀, s₁, -, -, -, h⟩ | ⟨s₁, -, h⟩ | ⟨e, s₁, -, htally, h⟩ :=
    exec_convert edges v t s
  · rw [h, Tally.count_raise]
    rfl
  · rw [h, Tally.count_raise]
    rfl
  · rw [h, htally]
    rfl

/-- A build counts no stage as added. -/
lemma Builder.countsStages_buildValue (b : Builder) (t : Convention) (s : State) :
    s.CountsStages [] ((b.buildValue t).exec s).2 := by
  intro k
  obtain ⟨done, rest, app, s₁, trails, -, -, -, hok, herror⟩ := b.buildValue_account t s
  rcases h : (b.buildValue t).exec s with ⟨e | out, s'⟩
  · obtain ⟨-, -, -, hcount⟩ := herror e s' h
    rw [hcount, Counter.along_of_not_isConversion rfl]
    rfl
  · obtain ⟨-, -, -, hcount⟩ := hok out s' h
    rw [hcount, Counter.along_of_not_isConversion rfl]
    rfl

/-- A build of a value of a type counts no stages. -/
lemma Builder.countsStages_build (b : Builder) (type : Shape) (s : State) :
    s.CountsStages [] ((b.build type).exec s).2 := by
  rw [b.exec_build_snd]
  exact b.countsStages_buildValue _ s

/-- Neither does a build of an app. -/
lemma Builder.countsStages_buildApp (b : Builder) (s : State) :
    s.CountsStages [] (b.buildApp.exec s).2 := by
  rw [b.exec_buildApp_snd]
  exact b.countsStages_build _ s

/-! ## Steps and programs -/

/-- A step that changes no list of stages counts none. -/
lemma Call.countsStages (x : Call) (w : Workshop) :
    w.state.CountsStages [] ((x.run w).exec w.state).2 := by
  have hcall {y : Assembly Unit} (hy : y.Within fun s s' => s'.tally = s.tally) :
      w.state.CountsStages [] (y.exec w.state).2 := .of_tally_eq (hy w.state)
  have hρ := State.callRelation_tally.passes
  cases x with
  | write i x =>
    cases x with
    | set key v => exact .of_tally_eq rfl
    | remove key => exact .of_tally_eq rfl
    | register v => exact hcall (hρ.register _ v)
  | registerByBag i v =>
    exact hcall (hρ.assembly.discard (Assembly.within_registerByBag State.callRelation_tally _ v))
  | convert i r v t =>
    have hedges : ((Session.chosenEdges (w.builder i).conversions r).exec w.state).2.tally =
        w.state.tally := by cases r <;> rfl
    rw [run, Assembly.exec_lift_bind, Assembly.exec_discard]
    exact (State.CountsStages.of_tally_eq hedges).trans (countsStages_convert _ v t _)
  | buildValue i t =>
    rw [run, Assembly.exec_discard]
    exact (w.builder i).countsStages_buildValue t _
  | build i type =>
    rw [run, Assembly.exec_discard]
    exact (w.builder i).countsStages_build type _
  | apply st next => exact hcall (hρ.assembly.discard (st.passes_apply hρ next))
  | invoke v args => exact hcall (hρ.assembly.discard (v.passes_invoke hρ args))
  | construct t args => exact hcall (hρ.assembly.discard (t.passes_construct hρ args))
  | eval e => exact hcall (hρ.assembly.discard (hρ.lift (e.passes_eval hρ.1)))
  | render v => exact hcall (hρ.assembly.discard (hρ.lift (v.passes_render hρ)))
  | number n x => exact hcall (hρ.assembly.discard (hρ.lift (n.passes_eval hρ x)))
  | store name v => cases name <;> exact .of_tally_eq rfl
  | takeCalls => exact .of_tally_eq rfl
  | takeEvents => exact .of_tally_eq rfl

/-- A step counts the stages that it adds. -/
lemma Act.countsStages (a : Act) (w : Workshop) :
    w.state.CountsStages a.added (a.run.exec w).2.state := by
  cases a with
  | make => exact .of_tally_eq rfl
  | branch i => exact .of_tally_eq rfl
  | clone i => exact .of_tally_eq rfl
  | add i x =>
    cases hx : x.resolve with
    | error e =>
      rw [added, hx, exec_add_error hx]
      exact .of_tally_eq rfl
    | ok st =>
      obtain ⟨events, hadd⟩ := exec_add_ok hx i w
      rw [added, hx, hadd]
      exact .stage rfl
  | call x => exact x.countsStages w

/-- Adding a branch counts one stage if it succeeds and none if it does not, besides those that are
counted while the branch is configured. -/
lemma Work.countsStages_mount {i : Nat} {g : Gate} {conf : Work Unit} {w : Workshop}
    {l : List StageKind} (hg : g.check = .ok ())
    (hconf : w.state.CountsStages l (conf.exec (w.opened i)).2.state) :
    w.state.CountsStages
      (l ++ match ((mount i g conf).exec w).1 with
        | .ok _ => [g.kind]
        | .error _ => [])
      ((mount i g conf).exec w).2.state := by
  have hends := mount_ends hg i conf w
  generalize (mount i g conf).exec w = r at hends ⊢
  cases hends with
  | @unconfigured e w₁ hw₁ =>
    rw [hw₁] at hconf
    exact hconf.trans (.of_tally_eq rfl)
  | @unbuilt e w₁ s hw₁ hbuild =>
    rw [hw₁] at hconf
    have hbuilds := (w₁.builder w.members.length).countsStages_buildApp w₁.state
    rw [hbuild] at hbuilds
    exact hconf.trans hbuilds
  | @added w₁ app s events hw₁ hbuild =>
    rw [hw₁] at hconf
    have hbuilds := (w₁.builder w.members.length).countsStages_buildApp w₁.state
    rw [hbuild] at hbuilds
    exact hconf.trans (hbuilds.trans (.stage (s := s) rfl))

/-- A program counts the stages that it adds.

**Proof sketch.** Induction on the program: the stages of the steps that configure a branch are
counted before the one that the branch becomes. -/
lemma Course.countsStages {busy : List Nat} {w w' : Workshop} {l : List StageKind}
    (h : Course busy w l w') : w.state.CountsStages l w'.state := by
  induction h with
  | start busy w => exact .of_tally_eq rfl
  | act _ a _ ih => exact ih.trans (a.countsStages _)
  | reject _ _ hg conf ih =>
    rw [Work.exec_mount_rejected _ conf hg]
    exact ih
  | mount _ _ hg _ ih ihconf =>
    rw [List.append_assoc]
    exact ih.trans (Work.countsStages_mount hg ihconf)

namespace Workshop

/-- **The counters tell exactly what has happened.**

* A build makes some of its moves, up to its end or to the first move that fails, and every
  conversion among the moves that it has made went along a trail of up to three edges. Each one is
  counted once, under the number of its edges.
* A build that succeeds has made two conversions for every stage and one at the end. It is counted
  under the kind of its target and not under the other one, and leaves no failure behind.
* A build that fails is not counted. It leaves one failure behind if there was no conversion, and
  none if a factory or a converter was given an argument that it does not take.
* Builds of handles and of apps count the same. They fail exactly if the build of a value does.
* A program counts the stages that it adds under the way in which they are written, among them the
  branches that are added. To add a stage succeeds exactly if one is found.

**Proof sketch.** The account of a build follows its moves (`Builder.buildValue_account`). Single
steps count what they add (`Act.countsStages`, `Work.countsStages_mount`), and therefore programs do
(`Course.countsStages`). -/
theorem counters_account :
    (∀ (b : Builder) (t : Convention) (s : State), ∃ done rest app s₁ trails,
      b.moves t = done.map Deed.move ++ rest ∧ Deeds b.conversions (b.terminal s) s done app s₁ ∧
      List.Forall₂ (Deed.Along b.conversions) (done.filter fun d => d.move.isConversion) trails ∧
      (∀ w ∈ trails, w.edges.length ≤ 3) ∧
      (∀ out s', (b.buildValue t).exec s = (.ok out, s') → rest = [] ∧
        s'.tally.conversions = s.tally.conversions + (2 * b.stages.length + 1) ∧
        (∀ hops, s'.tally.count (.conversion hops) =
          s.tally.count (.conversion hops) + trails.countP fun w => w.edges.length = hops) ∧
        (∀ k, s'.tally.count (.build k) = s.tally.count (.build k) + if k = t.kind then 1 else 0) ∧
        s'.tally.count .conversionFailure = s.tally.count .conversionFailure) ∧
      ∀ e s', (b.buildValue t).exec s = (.error e, s') →
        (∃ m rest', rest = m :: rest' ∧ (m.run b.conversions app).exec s₁ = (.error e, s')) ∧
        s'.tally.conversions = s.tally.conversions + trails.length ∧
        (∀ hops, s'.tally.count (.conversion hops) =
          s.tally.count (.conversion hops) + trails.countP fun w => w.edges.length = hops) ∧
        (∀ k, s'.tally.count (.build k) = s.tally.count (.build k)) ∧
        (e.kind = .noConversion ∧
            s'.tally.count .conversionFailure = s.tally.count .conversionFailure + 1 ∨
          e.kind = .argument ∧
            s'.tally.count .conversionFailure = s.tally.count .conversionFailure)) ∧
    (∀ (b : Builder) (type : Shape) (s : State),
      ((b.build type).exec s).2 = ((b.buildValue (Convention.ofShape type)).exec s).2 ∧
      ((s.registry b.conversions).Filled → type ≠ .atom .componentType → ∀ e s',
        (b.build type).exec s = (.error e, s') ↔
          (b.buildValue (Convention.ofShape type)).exec s = (.error e, s'))) ∧
    (∀ (b : Builder) (s : State), (b.buildApp.exec s).2 = ((b.build .appFunc).exec s).2 ∧
      ∀ e s', b.buildApp.exec s = (.error e, s') ↔ (b.build .appFunc).exec s = (.error e, s')) ∧
    (∀ (i : Nat) (x : Addition) (w : Workshop),
      (∃ r, ((Act.add i x).run.exec w).1 = .ok r) ↔ ∃ st, x.resolve = .ok st) ∧
    (∀ (g : Gate) (app : App), (g.mount app).stage.kind = g.kind) ∧
    ∀ busy w l w', Course busy w l w' → ∀ k,
      w'.state.tally.count (.stage k) = w.state.tally.count (.stage k) + l.count k := by
  refine ⟨fun b t s => ?_, fun b type s => ⟨b.exec_build_snd type s, fun hr ht =>
    Builder.exec_build_error_iff hr ht⟩, fun b s => ⟨b.exec_buildApp_snd s, fun e s' =>
    b.exec_buildApp_error_iff s s' e⟩, fun i x w => ?_, fun g app => ?_,
    fun busy w l w' h => h.countsStages⟩
  · obtain ⟨done, rest, app, s₁, trails, hmoves, hdone, htrails, hok, herror⟩ :=
      b.buildValue_account t s
    refine ⟨done, rest, app, s₁, trails, hmoves, hdone, htrails, Deed.length_le_of_along htrails,
      ?_, ?_⟩
    · intro out s' h
      obtain ⟨hrest, -, htotal, hcount⟩ := hok out s' h
      refine ⟨hrest, htotal, fun hops => ?_, fun k => ?_, ?_⟩
      · rw [hcount, Counter.along_conversion]
        rfl
      · rw [hcount, Counter.along_of_not_isConversion rfl]
        rfl
      · rw [hcount, Counter.along_of_not_isConversion rfl]
        rfl
    · intro e s' h
      obtain ⟨hrest, hkind, htotal, hcount⟩ := herror e s' h
      refine ⟨hrest, htotal, fun hops => ?_, fun k => ?_, ?_⟩
      · rw [hcount, Counter.along_conversion]
        rfl
      · rw [hcount, Counter.along_of_not_isConversion rfl]
        rfl
      · rw [hcount, Counter.along_of_not_isConversion rfl]
        refine hkind.imp (fun hkind => ⟨hkind, ?_⟩) fun hkind => ⟨hkind, ?_⟩
        · rw [Counter.failed, if_pos hkind]
        · rw [Counter.failed_of_argument hkind]
          rfl
  · cases hx : x.resolve with
    | error e =>
      rw [Act.exec_add_error hx]
      exact ⟨nofun, nofun⟩
    | ok st =>
      obtain ⟨events, hadd⟩ := Act.exec_add_ok hx i w
      rw [hadd]
      exact ⟨fun _ => ⟨st, rfl⟩, fun _ => ⟨_, rfl⟩⟩
  · cases g <;> rfl

/-- A branch with a handler is added under a path: two stages are counted. Then the builder without
stages is built: the only conversion takes one edge. -/
theorem counters_account_two :
    (∀ k, ((Work.mount 1 (.path "/a") .handle).exec two).2.state.tally.count (.stage k) =
      [StageKind.callableFactory, .constructibleComponent].count k) ∧
    ∃ out s', ((two.builder 0).buildValue (Convention.ofShape .dynApp)).exec two.state =
        (.ok out, s') ∧ s'.tally.conversions = 1 ∧ s'.tally.count (.build .object) = 1 := by
  obtain ⟨hbuild, -, -, -, -, hprogram⟩ := counters_account
  have hcourse : Course [] two ([] ++ ([] ++ [.callableFactory]) ++ [.constructibleComponent])
      ((Work.mount 1 (.path "/a") .handle).exec two).2 :=
    .mount (g := .path "/a") (.start _ _) ⟨by decide, List.not_mem_nil⟩ rfl
      (course_handle (by decide))
  refine ⟨fun k => (hprogram _ _ _ _ hcourse k).trans (Nat.zero_add _), ?_⟩
  obtain ⟨done, rest, app, s₁, trails, -, -, -, -, hok, -⟩ :=
    hbuild (two.builder 0) (Convention.ofShape .dynApp) two.state
  obtain ⟨-, htotal, -, hkind, -⟩ := hok _ _ rfl
  exact ⟨_, _, rfl, htotal, hkind .object⟩

end Workshop

end Pipework
