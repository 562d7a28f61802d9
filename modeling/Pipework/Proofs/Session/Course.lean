import Pipework.Proofs.Session.Standing
import Pipework.Proofs.Workshop.Descent

set_option autoImplicit false

/-!
# Programs that run, as programs of a workshop

As long as no step works on a builder while it is worked on already, a program that runs stands at a
workshop to which a program of the workshop leads, with its builders at places of their own. What is
true of all workshops is therefore true of everything that runs.

## Main results

* `Step.comesFrom`, `comesFrom_configure` — steps, and steps that configure a branch.
* `exists_reaches_of_run`, `exists_reaches_of_start` — whole programs.
* `sameBag_eq_sameRegistry` — what steps answer about sharing.
-/

namespace Pipework.Session

/-! ## Steps -/

section Steps

variable {p : Program} {w : Workshop} {place : String → Option Nat} {i : Nat} {busy : List Nat}
  {held : List String}

/-- The names whose builders are still being worked on when the step has given its name away. -/
def Step.leaves (held : List String) (step : Step) : List String :=
  match step.gives? with
  | some name => held.filter fun n => n ≠ name
  | none => held

/-- No builder is worked on after a step that was not before. -/
lemma Step.leaves_subset (held : List String) (step : Step) : step.leaves held ⊆ held := by
  unfold leaves
  split
  · exact List.filter_subset_self _
  · exact List.Subset.refl _

section Named

variable (h : p.StandsAt w place held (i :: busy)) (hi : i ∉ busy)
include h

/-- Builders that are made anew stand at a place of their own. -/
lemma comesFrom_make (name : String) :
    (exec (named (w.builder i) (.make name)) p).2.ComesFrom (w.builder i) w i busy
      (held.filter fun n => n ≠ name) := by
  refine .logged ?_
  have hmade := (h.withState (Builder.make.exec p.state).2).enter_give
    ⟨(Builder.make.exec p.state).1, none⟩ name
  have hcourse : Course busy w [] (Act.make.run.exec w).2 := .act (.start _ _) .make nofun
  rw [Act.exec_make, ← h.state] at hcourse
  exact ⟨_, _, _, hcourse, hmade, Workshop.builder_enter_lt _ (h.lt_length)⟩

include hi

/-- Clones stand at a place of their own. -/
lemma comesFrom_clone (name : String) :
    (exec (named (w.builder i) (.clone name)) p).2.ComesFrom (w.builder i) w i busy
      (held.filter fun n => n ≠ name) := by
  have hlt := h.lt_length
  refine .logged ⟨_, _, _, .act (.start _ w) (.clone i) fun j hj => ?_,
    h.enter_give ⟨w.builder i, some i⟩ name, Workshop.builder_enter_lt _ hlt⟩
  obtain rfl := List.mem_singleton.1 hj
  exact ⟨hlt, hi⟩

/-- Branches stand at a place of their own. -/
lemma comesFrom_branch (name : String) :
    (exec (named (w.builder i) (.branch name)) p).2.ComesFrom (w.builder i) w i busy
      (held.filter fun n => n ≠ name) := by
  have hlt := h.lt_length
  refine .logged ⟨_, _, _, .act (.start _ w) (.branch i) fun j hj => ?_,
    h.enter_give ⟨(w.builder i).branch, some i⟩ name, Workshop.builder_enter_lt _ hlt⟩
  obtain rfl := List.mem_singleton.1 hj
  exact ⟨hlt, hi⟩

end Named

/-- Asking whether two builders share something changes nothing. -/
lemma comesFrom_same (h : p.StandsAt w place held (i :: busy)) (name : String) :
    (exec (named (w.builder i) (.same name)) p).2.ComesFrom (w.builder i) w i busy held := by
  have hsame : (exec (runNamed (w.builder i) (.same name)) p).2 = p := by
    rw [runNamed, exec_get_bind]
    cases p.builders.get? name <;> rfl
  have hend := (Program.ComesFrom.of_standsAt h).logged
  rwa [← hsame] at hend

/-- A step that changes nothing about the builder it works on. -/
lemma comesFrom_plain (h : p.StandsAt w place held (i :: busy)) (hi : i ∉ busy) (step : Step) :
    let x : Run (Builder × Report) := do
      let outcome ← assembly (runPlain (w.builder i) step)
      let r ← conclude outcome []
      pure (w.builder i, r)
    (exec x p).2.ComesFrom (exec x p).1.1 w i busy held := by
  have hm := List.getElem?_eq_getElem (h.lt_length)
  have hcalls := byCalls_runPlain hm hi step
  rw [← Workshop.builder_of_getElem? hm] at hcalls
  exact (Program.ComesFrom.of_calls h hcalls).logged

/-! ### Stages -/

/-- The computation adds a stage to the builder at place `i`, if it does not fail. -/
def Adds (busy : List Nat) (ms : List Member) (i : Nat) (x : Assembly (Builder × Answer)) : Prop :=
  ∀ s, ∃ l, Course busy ⟨s, ms⟩ l (match x.exec s with
    | (.ok (b, _), s') => Workshop.put ⟨s', ms⟩ i b
    | (.error _, s') => ⟨s', ms⟩)

section Adds

variable {ms : List Member} {m : Member}

/-- Calls that come before make no difference. -/
lemma Adds.bind {α : Type} {x : Engine α} {f : α → Assembly (Builder × Answer)}
    (hx : x.ByCalls busy ms) (hf : ∀ a, Adds busy ms i (f a)) :
    Adds busy ms i (liftM x >>= f) := by
  intro s
  obtain ⟨l, hcourse⟩ := hf (x.exec s).1 (x.exec s).2
  rw [Assembly.exec_lift_bind]
  exact ⟨_, (hx s).trans hcourse⟩

variable (hm : ms[i]? = some m) (hi : i ∉ busy)
include hm hi

/-- A stage is added, and something is answered. -/
lemma adds_addition (x : Addition) (answer : Builder → Answer)
    {f : Builder → Assembly (Builder × Answer)} (hf : ∀ b, f b = pure (b, answer b)) :
    Adds busy ms i (x.run m.builder >>= f) := by
  intro s
  have hcourse := Course.act (.start busy ⟨s, ms⟩) (.add i x) fun j hj => by
    obtain rfl := List.mem_singleton.1 hj
    exact ⟨(List.getElem?_eq_some_iff.1 hm).1, hi⟩
  rw [Act.run, Work.exec_look_bind, Workshop.builder_of_getElem? hm] at hcourse
  rcases hx : (x.run m.builder).exec s with ⟨e | b, s'⟩
  · rw [Work.exec_bind_error ((Work.exec_lift _ _).trans (by rw [hx]))] at hcourse
    rw [Assembly.exec_bind_error hx]
    exact ⟨_, hcourse⟩
  · rw [Work.exec_bind_ok ((Work.exec_lift _ _).trans (by rw [hx]))] at hcourse
    rw [Assembly.exec_bind_ok hx, hf b]
    exact ⟨_, hcourse⟩

/-- A step that adds a stage. -/
lemma adds_runStage (step : Step) : Adds busy ms i (runStage m.builder step) := by
  cases step with
  | use d args =>
    refine .bind d.byCalls_eval fun v => .bind (byCalls_evalAll args) fun args => ?_
    refine adds_addition hm hi (.stage v args) (fun b =>
      b.stages.getLast?.elim .nothing fun stage => .staged b.stages.length stage) fun b => ?_
    cases b.stages.getLast? <;> rfl
  | useFunc f => exact adds_addition hm hi (.stage (.callable (.func f none)) []) _ fun _ => rfl
  | useMiddleware name acts => exact adds_addition hm hi (.middleware name acts) _ fun _ => rfl
  | handle handler => exact adds_addition hm hi (.handler (.leaf handler)) _ fun _ => rfl
  | _ =>
    refine fun s => ⟨[], ?_⟩
    change Course busy ⟨s, ms⟩ [] (Workshop.put ⟨s, ms⟩ i m.builder)
    rw [Workshop.put_of_getElem? hm]
    exact .start _ _

end Adds

/-- A step that adds a stage to the builder it works on. -/
lemma comesFrom_staged (h : p.StandsAt w place held (i :: busy)) (hi : i ∉ busy) (step : Step) :
    (exec (staged (w.builder i) step) p).2.ComesFrom (exec (staged (w.builder i) step) p).1.1 w i
      busy held := by
  have hm := List.getElem?_eq_getElem (h.lt_length)
  have hadds := adds_runStage hm hi step
  rw [← Workshop.builder_of_getElem? hm] at hadds
  obtain ⟨l, hcourse⟩ := hadds w.state
  rw [staged, exec_bind, exec_assembly, h.state]
  rcases hrun : (runStage (w.builder i) step).exec w.state with ⟨e | ⟨b, answer⟩, s⟩ <;>
    rw [hrun] at hcourse
  · exact .logged ⟨l, _, place, hcourse, h.withState s, rfl⟩
  · exact .logged ⟨l, _, place, hcourse, (h.withState s).put List.mem_cons_self b,
      Workshop.builder_put_self b (h.lt_length)⟩

/-! ### Names -/

/-- Without one of them, the names that are left are the others. -/
lemma filter_ne_subset {l : List String} {name : String} (h : l ⊆ name :: held) :
    l.filter (fun n => n ≠ name) ⊆ held := by
  intro n hn
  obtain ⟨hmem, hne⟩ := List.mem_filter.1 hn
  exact (List.mem_cons.1 (h hmem)).resolve_left (of_decide_eq_true hne)

/-- A builder that a step has worked on by its name gets the name back, unless the step itself has
given it away. The builder at place `i` is as it was. -/
lemma Program.ComesFrom.putBack {b : Builder} {j : Nat} {name : String} {step : Step}
    (h : p.ComesFrom b w j (i :: busy) (step.leaves (name :: held))) (hi : i < w.members.length)
    (hj : j ∉ i :: busy) :
    ComesFrom (if step.gives? = some name then p else
      { p with builders := p.builders.insert name b }) (w.builder i) w i busy held := by
  obtain ⟨l, w₁, place, hcourse, hstands, rfl⟩ := h
  have hbuilder := hcourse.extends.builder_eq List.mem_cons_self hi
  have hcourse := hcourse.mono (List.subset_cons_self i busy)
  by_cases hgives : step.gives? = some name
  · rw [if_pos hgives]
    have hsub : step.leaves (name :: held) ⊆ held := by
      rw [Step.leaves, hgives]
      exact filter_ne_subset (List.Subset.refl _)
    exact ⟨l, w₁, place, hcourse, hstands.mono hsub (List.subset_cons_self _ _), hbuilder⟩
  · rw [if_neg hgives]
    exact ⟨l, w₁, _, hcourse, (hstands.give hj name).mono
      (filter_ne_subset (step.leaves_subset _)) (List.Subset.refl _), hbuilder⟩

/-! ### Branches -/

/-- The program has come about while the builder at place `i` of the workshop `w` was configured,
with the builder as the result if nothing has failed. -/
def Program.Configured (p : Program) (result : Except BuildError Builder) (w : Workshop) (i : Nat)
    (busy : List Nat) (held : List String) : Prop :=
  ∃ b, p.ComesFrom b w i busy held ∧ ∀ b', result = .ok b' → b' = b

/-- A computation that ends in one way. -/
def endsIn (r : Except BuildError Unit) (w : Workshop) : Work Unit := ExceptT.mk fun _ => (r, w)

/-- The computation ends in this way wherever it starts. -/
lemma exec_endsIn (r : Except BuildError Unit) (w w' : Workshop) :
    (endsIn r w).exec w' = (r, w) := rfl

/-- A branch is added after a program that configures it. -/
lemma course_mount {g : Gate} {w₁ : Workshop} {l : List StageKind}
    (hi : i < w.members.length ∧ i ∉ busy) (hg : g.check = .ok ()) (r : Except BuildError Unit)
    (hcourse : Course (i :: busy) (w.opened i) l w₁) :
    ∃ l', Course busy w l' ((Work.mount i g (endsIn r w₁)).exec w).2 := by
  have hconf : Course (i :: busy) (w.opened i) l ((endsIn r w₁).exec (w.opened i)).2 := hcourse
  exact ⟨_, .mount (.start busy w) hi hg hconf⟩

/-- A branch under a path that is rejected is not configured. -/
lemma exec_add_rejected {g : Gate} {e : BuildError} (hg : g.check = .error e) (b : Builder)
    (conf : Builder → Configure Builder) (inner : List Report) (p : Program) :
    Configure.exec (g.add b conf) inner p = ((.error e, inner), p) := by
  cases g with
  | test c => cases hg
  | path s =>
    have hg : Builder.checkMount s = .error e := hg
    rw [Gate.add, Builder.map, hg]
    rfl

/-- Adding a branch is configuring it and adding what has become of it. -/
lemma exec_add {g : Gate} (hg : g.check = .ok ()) (b : Builder)
    (conf : Builder → Configure Builder) (inner : List Report) (p : Program) :
    Configure.exec (g.add b conf) inner p =
      Configure.exec (conf b.branch >>= fun branch => liftM (g.plant b branch)) inner p := by
  cases g with
  | test c => rfl
  | path s =>
    have hg : Builder.checkMount s = .ok () := hg
    rw [Gate.add, Builder.map, hg]
    rfl

/-- The builder that `b` has become when a computation ends that may fail. -/
def kept (b : Builder) : Except BuildError Builder → Builder
  | .ok b' => b'
  | .error _ => b

/-- The builder that a step leaves which mounts a branch, and the program. -/
lemma exec_concludeMount {x : Configure Builder} {p p' : Program}
    {result : Except BuildError Builder} {inner : List Report}
    (hx : Configure.exec x [] p = ((result, inner), p')) (b : Builder) :
    (exec (concludeMount b x) p).1.1 = kept b result ∧
      (exec (concludeMount b x) p).2 = p'.logged := by
  have hx : exec (x.run.run []) p = ((result, inner), p') := hx
  rw [concludeMount, exec_bind, hx]
  cases result <;> exact ⟨rfl, rfl⟩

namespace Program.Configured

variable {g : Gate} (hi : i < w.members.length ∧ i ∉ busy) (hg : g.check = .ok ())
include hi

/-- While its branch is configured, nothing happens to a builder. -/
lemma exists_course {result : Except BuildError Builder}
    (hconf : p.Configured result (w.opened i) w.members.length (i :: busy) held) :
    ∃ l w₁ place, Course (i :: busy) (w.opened i) l w₁ ∧ p.StandsAt w₁ place held (i :: busy) ∧
      w₁.builder i = w.builder i ∧ ∀ b, result = .ok b → w₁.builder w.members.length = b := by
  obtain ⟨b, ⟨l, w₁, place, hcourse, hstands, hb⟩, hresult⟩ := hconf
  have hopened : i < (w.opened i).members.length := by
    rw [Workshop.opened, Workshop.length_enter]
    exact Nat.lt_succ_of_lt hi.1
  exact ⟨l, w₁, place, hcourse, hstands.mono (List.Subset.refl _) (List.subset_cons_self _ _),
    (hcourse.extends.builder_eq List.mem_cons_self hopened).trans
      (Workshop.builder_enter_lt _ hi.1), fun b' hb' => hb.trans (hresult b' hb').symm⟩

include hg

/-- A branch that is not configured is not added. -/
lemma comesFrom_error {e : BuildError}
    (hconf : p.Configured (.error e) (w.opened i) w.members.length (i :: busy) held) :
    p.ComesFrom (w.builder i) w i busy held := by
  obtain ⟨l, w₁, place, hcourse, hstands, hbuilder, -⟩ := hconf.exists_course hi
  obtain ⟨l', hmount⟩ := course_mount hi hg (.error e) hcourse
  rw [Work.exec_mount_unconfigured hg (exec_endsIn _ _ _)] at hmount
  exact ⟨_, w₁, place, hmount, hstands, hbuilder⟩

/-- A branch that is configured is added, if it builds. -/
lemma comesFrom_plant {branch : Builder}
    (hconf : p.Configured (.ok branch) (w.opened i) w.members.length (i :: busy) held) :
    ComesFrom { p with state := ((g.plant (w.builder i) branch).exec p.state).2 }
      (kept (w.builder i) ((g.plant (w.builder i) branch).exec p.state).1) w i busy held := by
  obtain ⟨l, w₁, place, hcourse, hstands, hbuilder, hbranch⟩ := hconf.exists_course hi
  obtain ⟨l', hmount⟩ := course_mount hi hg (.ok ()) hcourse
  rw [Work.exec_mount_configured hg (exec_endsIn _ _ _), hbranch branch rfl] at hmount
  rw [hstands.state]
  rcases hplant : (g.plant (w.builder i) branch).exec w₁.state with ⟨e | b, s⟩
  · rw [Work.exec_bind_error ((Work.exec_lift _ _).trans (by rw [hplant]))] at hmount
    exact ⟨_, _, place, hmount, hstands.withState s, hbuilder⟩
  · rw [Work.exec_bind_ok ((Work.exec_lift _ _).trans (by rw [hplant])), Work.exec_change] at hmount
    exact ⟨_, _, place, hmount, (hstands.withState s).put List.mem_cons_self b,
      Workshop.builder_put_self b (hstands.lt_length)⟩

end Program.Configured

/-- Adding a branch, when it is known what the steps do that configure it. -/
lemma comesFrom_mount (h : p.StandsAt w place held (i :: busy)) (hi : i ∉ busy) (g : Gate)
    (conf : Builder → Configure Builder)
    (hconf : (Configure.exec (conf ((w.opened i).builder w.members.length)) [] p).2.Configured
      (Configure.exec (conf ((w.opened i).builder w.members.length)) [] p).1.1 (w.opened i)
      w.members.length (i :: busy) held) :
    (exec (concludeMount (w.builder i) (g.add (w.builder i) conf)) p).2.ComesFrom
      (exec (concludeMount (w.builder i) (g.add (w.builder i) conf)) p).1.1 w i busy held := by
  have hi : i < w.members.length ∧ i ∉ busy := ⟨h.lt_length, hi⟩
  rw [Workshop.opened, Workshop.builder_enter_self] at hconf
  cases hg : g.check with
  | error e =>
    obtain ⟨hkept, hprogram⟩ :=
      exec_concludeMount (exec_add_rejected hg (w.builder i) conf [] p) (w.builder i)
    rw [hkept, hprogram]
    exact (Program.ComesFrom.of_standsAt h).logged
  | ok u =>
    have hadd := exec_add hg (w.builder i) conf [] p
    rcases hrun : Configure.exec (conf (w.builder i).branch) [] p with ⟨⟨e | branch, inner⟩, p₁⟩
    · rw [hrun] at hconf
      rw [Configure.exec_bind_error hrun] at hadd
      obtain ⟨hkept, hprogram⟩ := exec_concludeMount hadd (w.builder i)
      rw [hkept, hprogram]
      exact (hconf.comesFrom_error hi hg).logged
    · rw [hrun] at hconf
      rw [Configure.exec_bind_ok hrun, Configure.exec_lift] at hadd
      obtain ⟨hkept, hprogram⟩ := exec_concludeMount hadd (w.builder i)
      rw [hkept, hprogram]
      exact (hconf.comesFrom_plant hi hg).logged

/-! ### All steps -/

section Equations

variable (b : Builder)

/-- A mount under a path is a gate that the steps go through. -/
lemma Step.run_map (path : String) (steps : List Step) : (Step.map path steps).run b =
    concludeMount b ((Gate.path path).add b fun branch => configure branch steps) := by
  rw [run]
  rfl

/-- So is a mount under a test. -/
lemma Step.run_mapWhen (c : Cond) (steps : List Step) : (Step.mapWhen c steps).run b =
    concludeMount b ((Gate.test c).add b fun branch => configure branch steps) := by
  rw [run]
  rfl

/-- A step on a builder that nothing is known of does nothing. -/
lemma Step.exec_on_none {name : String} {p : Program} (hname : p.builders.get? name = none)
    (step : Step) : exec ((Step.on name step).run b) p =
      ((b, .mk (.ok .nothing) [] p.state.calls), p.logged) := by
  rw [run, exec_get_bind, hname]
  rfl

/-- What the program is after a step on the builder of a name. -/
lemma Step.exec_on {c : Builder} {name : String} {p : Program} (hc : p.builders.get? name = some c)
    (step : Step) : (exec ((Step.on name step).run b) p).1.1 = b ∧
      (exec ((Step.on name step).run b) p).2 =
        if step.gives? = some name then (exec (step.run c) p).2
        else { (exec (step.run c) p).2 with
          builders := (exec (step.run c) p).2.builders.insert name (exec (step.run c) p).1.1 } := by
  rw [run, exec_get_bind, hc]
  by_cases hgives : step.gives? = some name
  · simp only [hgives, if_true]
    exact ⟨rfl, rfl⟩
  · simp only [hgives, if_false]
    exact ⟨rfl, rfl⟩

/-- Steps that configure a branch stop at the first one that fails. -/
lemma exec_configure_cons (step : Step) (steps : List Step) (inner : List Report) (p : Program) :
    Configure.exec (configure b (step :: steps)) inner p =
      match (exec (step.run b) p).1.2.failure? with
      | some e => ((.error e, inner ++ [(exec (step.run b) p).1.2]), (exec (step.run b) p).2)
      | none => Configure.exec (configure (exec (step.run b) p).1.1 steps)
        (inner ++ [(exec (step.run b) p).1.2]) (exec (step.run b) p).2 := by
  rw [configure]
  change Configure.exec (match (exec (step.run b) p).1.2.failure? with
    | some e => throw e
    | none => configure (exec (step.run b) p).1.1 steps)
      (inner ++ [(exec (step.run b) p).1.2]) (exec (step.run b) p).2 = _
  cases (exec (step.run b) p).1.2.failure? <;> rfl

end Equations

mutual

/-- Where a program stands after a step. While the step is taken, the builder that it works on is
known by its place only, and so are the builders of the names `held`; what the step itself gives a
name to has a place afterwards. -/
theorem Step.comesFrom (step : Step) {p : Program} {w : Workshop} {place : String → Option Nat}
    {i : Nat} {busy : List Nat} {held : List String} (hproper : step.Proper held)
    (h : p.StandsAt w place held (i :: busy)) (hi : i ∉ busy) :
    (exec (step.run (w.builder i)) p).2.ComesFrom (exec (step.run (w.builder i)) p).1.1 w i busy
      (step.leaves held) := by
  cases step with
  | on name step =>
    rw [Step.Proper] at hproper
    cases hc : p.builders.get? name with
    | none =>
      rw [Step.exec_on_none _ hc]
      exact (Program.ComesFrom.of_standsAt h).logged
    | some c =>
      have hplace := h.builders name hproper.1
      rw [hc] at hplace
      obtain ⟨j, hj, rfl⟩ := Option.map_eq_some_iff.1 hplace.symm
      obtain ⟨hend, hprogram⟩ := Step.exec_on (w.builder i) hc step
      rw [hend, hprogram]
      have hapart : j ∉ i :: busy := fun hmem => h.apart name hproper.1 j hmem hj
      exact (step.comesFrom hproper.2 (h.hold hproper.1 hj) hapart).putBack
        (h.lt_length) hapart
  | map path steps =>
    rw [Step.Proper] at hproper
    rw [Step.run_map]
    exact comesFrom_mount h hi (.path path) (fun b => configure b steps)
      (comesFrom_configure steps hproper h.opened.1 h.opened.2 [])
  | mapWhen c steps =>
    rw [Step.Proper] at hproper
    rw [Step.run_mapWhen]
    exact comesFrom_mount h hi (.test c) (fun b => configure b steps)
      (comesFrom_configure steps hproper h.opened.1 h.opened.2 [])
  | make name =>
    rw [Step.run]
    exact comesFrom_make h name
  | clone name =>
    rw [Step.run]
    exact comesFrom_clone h hi name
  | branch name =>
    rw [Step.run]
    exact comesFrom_branch h hi name
  | same name =>
    rw [Step.run]
    exact comesFrom_same h name
  | use d args =>
    rw [Step.run]
    exact comesFrom_staged h hi (.use d args)
  | useFunc f =>
    rw [Step.run]
    exact comesFrom_staged h hi (.useFunc f)
  | useMiddleware name acts =>
    rw [Step.run]
    exact comesFrom_staged h hi (.useMiddleware name acts)
  | handle handler =>
    rw [Step.run]
    exact comesFrom_staged h hi (.handle handler)
  | _ =>
    simp only [Step.run]
    exact comesFrom_plain h hi _

/-- Where a program stands when steps have configured a branch. -/
theorem comesFrom_configure (steps : List Step) {held : List String}
    (hproper : StepsProper held steps) {p : Program} {w : Workshop}
    {place : String → Option Nat} {i : Nat} {busy : List Nat}
    (h : p.StandsAt w place held (i :: busy)) (hi : i ∉ busy) (inner : List Report) :
    (Configure.exec (configure (w.builder i) steps) inner p).2.Configured
      (Configure.exec (configure (w.builder i) steps) inner p).1.1 w i busy held := by
  cases steps with
  | nil =>
    rw [configure]
    exact ⟨_, .of_standsAt h, fun b' hb' => (Except.ok.inj hb').symm⟩
  | cons step steps =>
    rw [StepsProper] at hproper
    have hstep := (step.comesFrom hproper.1 h hi).mono (step.leaves_subset held)
    rw [exec_configure_cons]
    generalize exec (step.run (w.builder i)) p = out at hstep ⊢
    obtain ⟨⟨b, r⟩, p₁⟩ := out
    cases hfailure : r.failure? with
    | some e => exact ⟨b, hstep, nofun⟩
    | none =>
      obtain ⟨l, w₁, place₁, hcourse, hstands, rfl⟩ := hstep
      obtain ⟨b, hb, hresult⟩ := comesFrom_configure steps hproper.2 hstands hi (inner ++ [r])
      exact ⟨b, .after hcourse hb, hresult⟩

end

end Steps

/-! ## Whole programs -/

/-- The program with which `start` begins: it has a new builder. -/
def Program.initial : Program :=
  ⟨(Builder.make.exec .initial).2, OrderedMap.ofList [(rootName, (Builder.make.exec .initial).1)]⟩

/-- Whole programs are run step by step. -/
lemma exec_runAll_cons (step : Step) (steps : List Step) (p : Program) :
    (exec (runAll (step :: steps)) p).2 =
      (exec (runAll steps) (exec (step.run .bareRoot) p).2).2 := by
  rw [runAll, List.mapM_cons]
  rfl

/-- The program stands at a workshop to which a program of the workshop has led from the start. The
builder at the first place is the one that was made first. -/
structure Program.Reaches (p : Program) (w : Workshop) (place : String → Option Nat) : Prop where
  course : ∃ l, Course [] .empty l w
  standsAt : p.StandsAt w place [] []
  pos : 0 < w.members.length
  branch_eq : (w.builder 0).branch = .bareRoot

/-- A step of its own works on a new branch of the first builder. -/
lemma Step.exists_reaches {step : Step} (hproper : step.Proper []) {p : Program} {w : Workshop}
    {place : String → Option Nat} (h : p.Reaches w place) :
    ∃ w' place', (exec (step.run .bareRoot) p).2.Reaches w' place' := by
  obtain ⟨⟨l, hcourse⟩, hstands, hlt, hroot⟩ := h
  have hbranch : Course [] w [] (w.opened 0) := .act (.start [] w) (.branch 0) fun i hi => by
    obtain rfl := List.mem_singleton.1 hi
    exact ⟨hlt, List.not_mem_nil⟩
  have hopened : p.StandsAt (w.opened 0) place [] [w.members.length] := hstands.enter _
  have hbare : (w.opened 0).builder w.members.length = .bareRoot :=
    (Workshop.builder_enter_self _ _).trans hroot
  have hstep := step.comesFrom hproper hopened List.not_mem_nil
  rw [hbare] at hstep
  obtain ⟨l', w₁, place₁, hcourse₁, hstands₁, -⟩ := hstep
  have hcourse₁ := hbranch.trans hcourse₁
  obtain ⟨hlt₁, hroot₁⟩ := hcourse₁.extends.branch_eq hlt
  exact ⟨w₁, place₁, ⟨_, hcourse.trans hcourse₁⟩,
    hstands₁.mono (step.leaves_subset []) (List.nil_subset _), hlt₁, hroot₁.trans hroot⟩

/-- The program that starts has one builder. -/
lemma Program.exists_reaches_initial : ∃ w place, Program.initial.Reaches w place := by
  have hcourse : Course [] .empty [] (Act.make.run.exec .empty).2 := .act (.start _ _) .make nofun
  have hempty : StandsAt ⟨.initial, OrderedMap.empty⟩ .empty (fun _ => none) [] [] :=
    ⟨rfl, fun _ _ => rfl, nofun, nofun, nofun, nofun⟩
  have hmade := (hempty.withState (Builder.make.exec .initial).2).enter_give
    ⟨(Builder.make.exec .initial).1, none⟩ rootName
  exact ⟨_, _, ⟨_, hcourse⟩, hmade, Nat.zero_lt_one, rfl⟩

/-- **Programs that run are programs of a workshop.** Whatever runs, if no step works on a builder
while it is worked on already, there is a program of a workshop that leaves the same state and the
same builders, those of different names at different places.

**Proof sketch.** Induction on the steps. Each of them works on a new branch of the first builder
(`Step.exists_reaches`). Inside a step the induction goes over the step and over the lists of steps
that configure branches (`Step.comesFrom`, `comesFrom_configure`); what has been done to the builder
of a name is put back at the end (`Program.ComesFrom.putBack`). -/
theorem exists_reaches_of_run {steps : List Step} (hproper : StepsProper [] steps) {p : Program}
    {w : Workshop} {place : String → Option Nat} (h : p.Reaches w place) :
    ∃ w' place', (exec (runAll steps) p).2.Reaches w' place' := by
  induction steps generalizing p w place with
  | nil => exact ⟨w, place, h⟩
  | cons step steps ih =>
    rw [StepsProper] at hproper
    obtain ⟨w₁, place₁, h₁⟩ := Step.exists_reaches hproper.1 h
    rw [exec_runAll_cons]
    exact ih hproper.2 h₁

/-- The reports of `start` are those of a program that comes to stand at a workshop. -/
theorem exists_reaches_of_start {steps : List Step} (hproper : StepsProper [] steps) :
    ∃ p w place, exec (runAll steps) .initial = (start steps, p) ∧ p.Reaches w place := by
  obtain ⟨w₀, place₀, h₀⟩ := Program.exists_reaches_initial
  obtain ⟨w, place, h⟩ := exists_reaches_of_run hproper h₀
  exact ⟨_, w, place, rfl, h⟩

/-- When a whole program has run, two builders of a name share their bags exactly if they share
their registries. -/
theorem sameBag_eq_sameRegistry {steps : List Step} (hproper : StepsProper [] steps)
    {name name' : String} {b c : Builder}
    (hb : (exec (runAll steps) .initial).2.builders.get? name = some b)
    (hc : (exec (runAll steps) .initial).2.builders.get? name' = some c) :
    b.sameBag c = b.sameRegistry c := by
  obtain ⟨p, w, place, hrun, ⟨l, hcourse⟩, hstands, -⟩ := exists_reaches_of_start hproper
  rw [hrun] at hb hc
  rw [hstands.builders name List.not_mem_nil] at hb
  rw [hstands.builders name' List.not_mem_nil] at hc
  obtain ⟨i, hi, rfl⟩ := Option.map_eq_some_iff.1 hb
  obtain ⟨j, hj, rfl⟩ := Option.map_eq_some_iff.1 hc
  have hformed : w.Formed := (Workshop.Reached.course .start hcourse).formed
  exact decide_eq_decide.2 (hformed.same_bag_iff_same_registry
    (hstands.lt name List.not_mem_nil i hi) (hstands.lt name' List.not_mem_nil j hj))

end Pipework.Session
