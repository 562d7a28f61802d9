import Pipework.Proofs.App.Routing
import Pipework.Proofs.Builder.Onion
import Pipework.Proofs.Stage.Application

set_option autoImplicit false

/-!
# Mounted branches

A builder to which branches and then a handler are added builds the app that has the mounts of the
branches in front of the handler, whatever conversions there are: only the terminal app, which the
handler makes superfluous, takes a conversion that does anything.

## Main definitions

* `Mount.stage` — the stage by which a branch is mounted.
* `Mounted` — the builders to which branches have been added, one after the other.

## Main results

* `Builder.exists_of_map`, `Builder.exists_of_mapWhen` — adding a branch.
* `Builder.content_of_fold_mounts` — what the stages of mounted branches make of an app.
* `Builder.buildApp_routes` — requests go to the first branch that they match, or to the handler.
-/

namespace Pipework

/-! ## Adding branches -/

/-- The stage by which a branch is mounted. -/
def Mount.stage : Mount → Stage
  | .path p branch =>
    ⟨.object .appFunc, .construct .mount [.appFunc, .atom .mapOptions],
      [.data (.mapOptions p branch)], .constructibleComponent,
      (Value.componentType .mount).describe⟩
  | .test c branch =>
    ⟨.object .appFunc, .callable .choose, [.data (.predicate c), .data (.app .func branch)],
      .callableFactory, (Value.callable .choose).describe⟩

/-- The stage of a handler. -/
def Stage.handling (handler : App) : Stage :=
  ⟨.object .appFunc, .callable (.handler handler), [], .callableFactory,
    (Value.callable (.handler handler)).describe⟩

namespace Builder

variable {b b' : Builder} {s s' : State}

/-- A stage that is added comes behind the others. -/
lemma eq_of_useStage {v : Value} {args : Args} {st : Stage} (hst : Stage.resolve v args = .ok st)
    (h : (b.useStage v args).exec s = (.ok b', s')) :
    b' = { b with stages := b.stages ++ [st] } := by
  rw [b.exec_useStage_ok hst] at h
  cases h
  rfl

/-- A branch is added under a path that mounts accept, after it has been configured and built. -/
lemma exists_of_map {p : String} {configure : Builder → Assembly Builder}
    (h : (b.map p configure).exec s = (.ok b', s')) :
    Route.check p = .ok () ∧ ∃ branch s₁ app s₂, (configure b.branch).exec s = (.ok branch, s₁) ∧
      branch.buildApp.exec s₁ = (.ok app, s₂) ∧
      b' = { b with stages := b.stages ++ [(Mount.path p app).stage] } := by
  unfold map at h
  obtain ⟨_, s₀, hcheck, h⟩ := Assembly.exists_of_exec_bind h
  obtain ⟨hpath, rfl⟩ := Prod.mk.inj hcheck
  obtain ⟨branch, s₁, hconfigure, h⟩ := Assembly.exists_of_exec_bind h
  obtain ⟨app, s₂, hbuild, h⟩ := Assembly.exists_of_exec_bind h
  refine ⟨?_, branch, s₁, app, s₂, hconfigure, hbuild, eq_of_useStage rfl h⟩
  unfold checkMount at hpath
  cases hroute : Route.check p with
  | ok _ => rfl
  | error fault =>
    rw [hroute] at hpath
    cases hpath

/-- A branch is added for a test, after it has been configured and built. -/
lemma exists_of_mapWhen {c : Cond} {configure : Builder → Assembly Builder}
    (h : (b.mapWhen c configure).exec s = (.ok b', s')) :
    ∃ branch s₁ app s₂, (configure b.branch).exec s = (.ok branch, s₁) ∧
      branch.buildApp.exec s₁ = (.ok app, s₂) ∧
      b' = { b with stages := b.stages ++ [(Mount.test c app).stage] } := by
  obtain ⟨branch, s₁, hconfigure, h⟩ := Assembly.exists_of_exec_bind h
  obtain ⟨app, s₂, hbuild, h⟩ := Assembly.exists_of_exec_bind h
  exact ⟨branch, s₁, app, s₂, hconfigure, hbuild, eq_of_useStage rfl h⟩

end Builder

/-- Branches have been added to a builder, one after the other, whatever happened in between. Each
of them is the app that the configured branch has built at that moment. -/
inductive Mounted : Builder → List Mount → Builder → Prop
  | nil (b : Builder) : Mounted b [] b
  | path {b b₁ b' branch : Builder} {ms : List Mount} {p : String} {app : App}
      {configure : Builder → Assembly Builder} {s s₁ s₂ s' : State}
      (h : (b.map p configure).exec s = (.ok b₁, s'))
      (hconfigure : (configure b.branch).exec s = (.ok branch, s₁))
      (happ : branch.buildApp.exec s₁ = (.ok app, s₂)) (rest : Mounted b₁ ms b') :
      Mounted b (.path p app :: ms) b'
  | test {b b₁ b' branch : Builder} {ms : List Mount} {c : Cond} {app : App}
      {configure : Builder → Assembly Builder} {s s₁ s₂ s' : State}
      (h : (b.mapWhen c configure).exec s = (.ok b₁, s'))
      (hconfigure : (configure b.branch).exec s = (.ok branch, s₁))
      (happ : branch.buildApp.exec s₁ = (.ok app, s₂)) (rest : Mounted b₁ ms b') :
      Mounted b (.test c app :: ms) b'

/-- Every branch that is added is a stage, in the order in which they are added. -/
lemma Mounted.eq {b b' : Builder} {ms : List Mount} (h : Mounted b ms b') :
    b' = { b with stages := b.stages ++ ms.map Mount.stage } := by
  induction h with
  | nil b => simp
  | path h hconfigure happ _ ih =>
    obtain ⟨-, branch, s₁, app, s₂, hconfigure', happ', rfl⟩ := Builder.exists_of_map h
    cases hconfigure.symm.trans hconfigure'
    cases happ.symm.trans happ'
    simpa using ih
  | test h hconfigure happ _ ih =>
    obtain ⟨branch, s₁, app, s₂, hconfigure', happ', rfl⟩ := Builder.exists_of_mapWhen h
    cases hconfigure.symm.trans hconfigure'
    cases happ.symm.trans happ'
    simpa using ih

/-! ## Conversions that stay at the app -/

/-- Two states that differ at most in what has been reported and counted. -/
structure State.SameBut (s s' : State) : Prop where
  bags : s'.bags = s.bags
  registries : s'.registries = s.registries
  cells : s'.cells = s.cells
  vars : s'.vars = s.vars
  calls : s'.calls = s.calls
  told : s'.told = s.told

/-- Reports one after the other are reports. -/
lemma State.SameBut.trans {s s' s'' : State} (h : s.SameBut s') (h' : s'.SameBut s'') :
    s.SameBut s'' :=
  ⟨h'.bags.trans h.bags, h'.registries.trans h.registries, h'.cells.trans h.cells,
    h'.vars.trans h.vars, h'.calls.trans h.calls, h'.told.trans h.told⟩

/-- A conversion that takes no edge succeeds, whatever edges there are, and is only reported. -/
lemma exec_convertIn_of_still {k : RegistryId} {v out : Value} {t : Convention}
    (h : ∀ edges, oneHop edges v t = pure (some (out, 0))) (s : State) :
    ∃ s', (convertIn k v t).exec s = (.ok out, s') ∧ s.SameBut s' := by
  rw [convertIn, Assembly.exec_get_bind]
  rw [convert, search, h, pure_bind, pure_bind]
  simp only [Assembly.exec_lift_bind]
  exact ⟨_, rfl, rfl, rfl, rfl, rfl, rfl, rfl⟩

/-- A function of the environment is one already. -/
lemma exec_convertIn_func {v : Value} {a : App} (hv : v.content? = some (.app .func a))
    {t : Convention} (ht : t.handle = .appFunc) (k : RegistryId) (s : State) :
    ∃ s', (convertIn k v t).exec s = (.ok v, s') ∧ s.SameBut s' := by
  refine exec_convertIn_of_still (fun edges => ?_) s
  have hshape : v.shape = .appFunc := (Value.shape_of_mem_content? hv).symm
  have hsat : v.satisfies t = true := by
    simp [Value.satisfies, Convention.isSatisfiedBy, ht, hshape]
  rw [oneHop, if_pos hsat]

/-- A mounted branch becomes a function of the environment by its operation. -/
lemma exec_convertIn_mount (p : String) (branch next : App) (k : RegistryId) (s : State) :
    ∃ s', (convertIn k (.component (.mount p branch next)) (.object .appFunc)).exec s =
      (.ok (.bound (.app .func (.mount p branch next))), s') ∧ s.SameBut s' :=
  exec_convertIn_of_still (fun _ => rfl) s

/-! ## The stages of mounted branches -/

namespace Mount

/-- What the stage of a branch makes of an app. -/
def made : Mount → App → Value
  | path p branch, next => .component (.mount p branch next)
  | test c branch, next => .data (.app .func (.choose c branch next))

/-- Every mount takes and gives a function of the environment. -/
lemma handle_convention_stage (m : Mount) : m.stage.convention.handle = .appFunc := by
  cases m <;> rfl

/-- The stage of a branch makes a mount of a function of the environment, and does nothing else. -/
lemma exec_apply_stage (m : Mount) {v : Value} {a : App} (hv : v.content? = some (.app .func a))
    (s : State) : (m.stage.apply v).exec s = (.ok (m.made a), s) := by
  have hget : v.get? .appFunc = some (.app .func a) := by
    rw [Value.get?, hv]
    rfl
  cases m with
  | path p branch =>
    have hargs : extractAll [.appFunc, .atom .mapOptions] [v, .data (.mapOptions p branch)] =
        .ok [.app .func a, .mapOptions p branch] := by
      simp [extractAll, extractList, extractFrom, hget]
      rfl
    exact ComponentType.exec_constructWith (t := .mount) hargs s
  | test c branch =>
    have hargs : extractAll Routine.choose.params
        [v, .data (.predicate c), .data (.app .func branch)] =
        .ok [.app .func a, .predicate c, .app .func branch] := by
      simp [extractAll, extractList, extractFrom, hget, Routine.params]
      rfl
    exact Routine.exec_invoke hargs s

/-- The stage of a branch takes nothing but functions of the environment. -/
lemma exists_app_or_error (m : Mount) (v : Value) :
    (∃ a, v.content? = some (.app .func a)) ∨
      ∃ e, ∀ s, (m.stage.apply v).exec s = (.error e, s) := by
  cases hnext : extractFrom 0 v .appFunc with
  | error e =>
    have hargs : extractAll m.stage.factory.params (v :: m.stage.args) = .error e := by
      cases m <;>
        simp [extractAll, extractList, hnext, stage, Factory.params, Routine.params]
    exact .inr ⟨e, Stage.exec_apply_of_error hargs⟩
  | ok c =>
    obtain ⟨a, rfl⟩ := Content.exists_app .func (shape_of_extractFrom hnext)
    exact .inl ⟨a, content?_of_extractFrom hnext (by decide)⟩

/-- A mount is put around functions of the environment only. -/
lemma exists_of_apply_stage (m : Mount) {v out : Value} {s s' : State}
    (h : (m.stage.apply v).exec s = (.ok out, s')) : ∃ a, v.content? = some (.app .func a) := by
  refine (m.exists_app_or_error v).resolve_right fun ⟨e, he⟩ => ?_
  cases (he s).symm.trans h

/-- The stage of a branch changes nothing, whatever it is given. -/
lemma exists_apply_stage (m : Mount) (v : Value) (s : State) :
    ∃ r, (m.stage.apply v).exec s = (r, s) := by
  obtain ⟨a, ha⟩ | ⟨e, he⟩ := m.exists_app_or_error v
  · exact ⟨_, m.exec_apply_stage ha s⟩
  · exact ⟨_, he s⟩

/-- What the stage of a branch makes is the mount, once it is a function of the environment. -/
lemma exists_convertIn_made (m : Mount) (a : App) (k : RegistryId) (s : State) :
    ∃ out s', (convertIn k (m.made a) m.stage.convention).exec s = (.ok out, s') ∧
      out.content? = some (.app .func (m.wrap a)) := by
  cases m with
  | path p branch =>
    obtain ⟨s', hout, -⟩ := exec_convertIn_mount p branch a k s
    exact ⟨_, s', hout, rfl⟩
  | test c branch =>
    obtain ⟨s', hout, -⟩ := exec_convertIn_func (v := .data (.app .func (.choose c branch a))) rfl
      (t := (test c branch).stage.convention) rfl k s
    exact ⟨_, s', hout, rfl⟩

end Mount

namespace Builder

variable {k : RegistryId}

/-- Stages are put around an app one after the other. -/
lemma fold_append (xs ys : List Stage) (v : Value) :
    fold k (xs ++ ys) v = fold k xs v >>= fold k ys := by
  induction xs generalizing v with
  | nil => rfl
  | cons x xs ih => simp only [List.cons_append, fold, ih, bind_assoc]

/-- The stage of a branch puts the mount in front of the app. -/
lemma exists_fold_mount (m : Mount) (stages : List Stage) {v : Value} {a : App}
    (hv : v.content? = some (.app .func a)) (s : State) :
    ∃ v' s', (fold k (m.stage :: stages) v).exec s = (fold k stages v').exec s' ∧
      v'.content? = some (.app .func (m.wrap a)) := by
  obtain ⟨s₁, hnext, -⟩ := exec_convertIn_func hv m.handle_convention_stage k s
  obtain ⟨out, s₂, hout, hcontent⟩ := m.exists_convertIn_made a k s₁
  refine ⟨out, s₂, ?_, hcontent⟩
  rw [fold, Assembly.exec_bind_ok hnext, Assembly.exec_bind_ok (m.exec_apply_stage hv s₁),
    Assembly.exec_bind_ok hout]

/-- The stage of a branch, if it is applied at all, puts the mount in front of what has become a
function of the environment. -/
lemma exists_of_fold_mount {m : Mount} {rest : List Stage} {v out : Value} {s s' : State}
    (h : (fold k (m.stage :: rest) v).exec s = (.ok out, s')) :
    ∃ w s₁ last, (convertIn k v (.object .appFunc)).exec s = (.ok w, s₁) ∧
      w.content? = some (.app .func last) ∧
      ∃ v' s₂, v'.content? = some (.app .func (m.wrap last)) ∧
        (fold k rest v').exec s₂ = (.ok out, s') := by
  have hconvention : m.stage.convention = .object .appFunc := by cases m <;> rfl
  obtain ⟨w, s₁, hw, h⟩ := Assembly.exists_of_exec_bind h
  obtain ⟨made, s₂, hmade, h⟩ := Assembly.exists_of_exec_bind h
  obtain ⟨last, hlast⟩ := m.exists_of_apply_stage hmade
  obtain ⟨hvalue, -⟩ := Prod.mk.inj (hmade.symm.trans (m.exec_apply_stage hlast s₁))
  obtain ⟨v', s₃, hv', h⟩ := Assembly.exists_of_exec_bind h
  obtain ⟨v'', s₄, hv'', hcontent⟩ := m.exists_convertIn_made last k s₂
  rw [Except.ok.inj hvalue] at hv'
  cases hv'.symm.trans hv''
  exact ⟨w, s₁, last, hconvention ▸ hw, hlast, v', s₃, hcontent, h⟩

/-- The stage of a handler, if it is applied at all, gives the handler and does nothing. -/
lemma eq_of_apply_handling {handler : App} {next made : Value} {s s' : State}
    (h : ((Stage.handling handler).apply next).exec s = (.ok made, s')) :
    made = .data (.app .func handler) ∧ s' = s := by
  obtain ⟨cs, -, hmade, hafter⟩ := Routine.exists_extractAll_of_invoke (r := .handler handler) h
  have hrun : ((Routine.handler handler).run cs).exec s = (.app .func handler, s) := by
    unfold Routine.run
    rfl
  rw [hrun] at hmade hafter
  exact ⟨hmade, hafter⟩

/-- The stage of a handler, if it is applied at all, puts the handler in the place of the app. -/
lemma exists_of_fold_handling {handler : App} {rest : List Stage} {v out : Value} {s s' : State}
    (h : (fold k (.handling handler :: rest) v).exec s = (.ok out, s')) :
    ∃ s₁, (fold k rest (.data (.app .func handler))).exec s₁ = (.ok out, s') := by
  obtain ⟨next, s₁, -, happly⟩ := Assembly.exists_of_exec_bind h
  obtain ⟨made, s₂, hmade, hconvert⟩ := Assembly.exists_of_exec_bind happly
  obtain ⟨rfl, -⟩ := eq_of_apply_handling hmade
  obtain ⟨app, s₃, hout, hrest⟩ := Assembly.exists_of_exec_bind hconvert
  obtain ⟨s₄, hstill, -⟩ := exec_convertIn_func (v := .data (.app .func handler)) rfl
    (t := (Stage.handling handler).convention) rfl k s₂
  cases hout.symm.trans hstill
  exact ⟨s₃, hrest⟩

/-- The stages of mounted branches put the mounts in front of the app, the one that was added first
in front of all others. -/
lemma content_of_fold_mounts (ms : List Mount) {v : Value} {a : App}
    (hv : v.content? = some (.app .func a)) (s : State) :
    ∃ out s', (fold k (ms.map Mount.stage).reverse v).exec s = (.ok out, s') ∧
      out.content? = some (.app .func (Mount.chain ms a)) := by
  induction ms using List.reverseRecOn generalizing v a s with
  | nil => exact ⟨v, s, rfl, hv⟩
  | append_singleton ms m ih =>
    obtain ⟨v', s₁, hstep, hv'⟩ := exists_fold_mount m (ms.map Mount.stage).reverse hv s
    obtain ⟨out, s', hrest, hout⟩ := ih hv' s₁
    refine ⟨out, s', ?_, ?_⟩
    · rw [List.map_append, List.reverse_append]
      exact hstep.trans hrest
    · rw [Mount.chain, List.foldr_append]
      exact hout

/-- **Routing.** Branches are added to a builder without stages, under paths that mounts accept or
for tests, and then a handler. Whenever the builder builds an app, that app hands every request to
the first branch that it matches, and to the handler if it matches none, as `Mount.Routes` says. The
registered conversions and the terminal app make no difference to the app.

**Proof sketch.** What the branches have added are their stages (`Mounted.eq`). The stage of the
handler makes the handler, whatever it has been given (`exists_of_fold_handling`); from there on
every value is a function of the environment or a mount, which no conversion can lead away
(`content_of_fold_mounts`). So the app is the chain of the mounts in front of the handler. -/
theorem buildApp_routes {b₀ b₁ b : Builder} (hempty : b₀.stages = []) {ms : List Mount}
    (hmounts : Mounted b₀ ms b₁) {handler : App} {s₁ s₂ : State}
    (hrun : (b₁.run handler).exec s₁ = (.ok b, s₂)) {a : App} {s s' : State}
    (hbuild : b.buildApp.exec s = (.ok a, s')) (e : Environment) : Mount.Routes a ms handler e := by
  have hstages : b.stages.reverse = .handling handler :: (ms.map Mount.stage).reverse := by
    have hresolve : Stage.resolve (.callable (.handler handler)) [] = .ok (.handling handler) := rfl
    rw [eq_of_useStage hresolve hrun, hmounts.eq, hempty]
    simp
  obtain ⟨app, s₃, out, s₄, hfold, hconvert, hout⟩ := exists_of_buildApp hbuild
  rw [hstages] at hfold
  obtain ⟨s₅, hfold⟩ := exists_of_fold_handling hfold
  obtain ⟨app', s₆, hchain, happ⟩ :=
    content_of_fold_mounts (k := b.conversions) ms (v := .data (.app .func handler)) rfl s₅
  cases hfold.symm.trans hchain
  obtain ⟨s₆, hstill, -⟩ :=
    exec_convertIn_func happ (t := Convention.ofShape .appFunc) rfl b.conversions s₃
  cases hconvert.symm.trans hstill
  cases hout.symm.trans happ
  exact Mount.routes_chain ms handler e

/-- Two branches for requests under the same path, the first of which is mounted: it gets such a
request in any casing, and what it makes of the path is undone. -/
theorem buildApp_routes_other_casing :
    let moving : App := .leaf ⟨"moving", some [.edit (.path "/elsewhere")]⟩
    let ms := [Mount.path "/api" moving, .test (.pathStartsWith "/A") (.leaf ⟨"late", none⟩)]
    let e := { Environment.blank with path := "/API/users" }
    ∃ b₁ b s₁ s₂ a s', Mounted ⟨0, 0, []⟩ ms b₁ ∧ (b₁.run .notFound).exec s₁ = (.ok b, s₂) ∧
      b.buildApp.exec s₂ = (.ok a, s') ∧ ∀ held depth, a.run held depth e =
        { moving.run held depth { e with pathBase := "/api", path := "/users" } with
          pathBase := "", path := "/API/users" } := by
  intro moving ms e
  have hpath : ((⟨0, 0, []⟩ : Builder).map "/api" fun b => b.run moving).exec (State.fresh 0) = _ :=
    rfl
  have htest : ((⟨0, 0, [ms[0].stage]⟩ : Builder).mapWhen (.pathStartsWith "/A") fun b =>
      b.run (.leaf ⟨"late", none⟩)).exec (State.fresh 0) = _ := rfl
  have hmounts : Mounted ⟨0, 0, []⟩ ms ⟨0, 0, ms.map Mount.stage⟩ :=
    .path hpath rfl rfl (.test htest rfl rfl (.nil _))
  have hrun : (Builder.run ⟨0, 0, ms.map Mount.stage⟩ .notFound).exec (State.fresh 0) = _ := rfl
  let s₂ := ((Builder.run ⟨0, 0, ms.map Mount.stage⟩ .notFound).exec (State.fresh 0)).2
  refine ⟨_, _, State.fresh 0, s₂, _, _, hmounts, hrun, rfl, ?_⟩
  obtain ⟨passed, rest, hsplit, hpassed, hroutes⟩ :=
    buildApp_routes rfl hmounts hrun (s := s₂) rfl e
  cases passed with
  | cons m passed =>
    obtain ⟨rfl, -⟩ := List.cons.inj hsplit
    exact absurd (hpassed _ List.mem_cons_self) (by decide)
  | nil =>
    obtain rfl : ms = rest := hsplit
    obtain ⟨remaining, hremaining, hrun, -⟩ := hroutes
    obtain rfl : "/users" = remaining := Option.some.inj (Eq.trans (by decide) hremaining)
    exact hrun

end Builder

end Pipework
