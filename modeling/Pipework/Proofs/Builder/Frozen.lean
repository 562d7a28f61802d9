import Pipework.Proofs.Builder.Mounts
import Pipework.Proofs.Builder.Stable

set_option autoImplicit false

/-!
# Mounted branches are frozen

A branch is built once, when it is added: its stages are called then, around the terminal app that
the bag holds then. What the parent gets is a stage that holds the finished app. Later builds of the
parent call that stage again and again, but the call does nothing, and the app that the stage holds
is the one of the first day; only what is behind the branch is made anew.

## Main definitions

* `Builder.Adds` — a branch has been added under a path or for a test.
* `Move.stage?` — the stage that a move of a build calls.
* `Mount.answer` — what a request for a branch is answered.
* `Mount.Placed` — among the moves of a build the branch is only put in its place.

## Main results

* `Builder.exists_deeds_of_buildValue` — a build that succeeds has called its stages once each.
* `Builder.branch_is_frozen` — a branch that has been added stays what it is.
* `Builder.branch_thaws_by_shared_terminal` — a terminal app that is also a stage of the parent is
  told the next app.
-/

namespace Pipework

/-! ## Adding a branch -/

/-- A branch has been added to a builder, under a path or for a test. -/
inductive Builder.Adds (b : Builder) (configure : Builder → Assembly Builder) (s : State) :
    (App → Mount) → Builder → State → Prop
  | path {p : String} {b' : Builder} {s' : State}
      (h : (b.map p configure).exec s = (.ok b', s')) : Adds b configure s (.path p) b' s'
  | test {c : Cond} {b' : Builder} {s' : State}
      (h : (b.mapWhen c configure).exec s = (.ok b', s')) : Adds b configure s (.test c) b' s'

namespace Builder

variable {b b' : Builder} {s s' : State}

/-- Adding a stage is reported and counted, and changes nothing else. -/
lemma sameBut_of_useStage {v : Value} {args : Args}
    (h : (b.useStage v args).exec s = (.ok b', s')) :
    s.SameBut s' := by
  cases hst : Stage.resolve v args with
  | error e => cases (b.exec_useStage_error hst s).symm.trans h
  | ok st =>
    rw [b.exec_useStage_ok hst] at h
    cases h
    exact ⟨rfl, rfl, rfl, rfl, rfl, rfl⟩

/-- A branch is configured and built, and the parent gets a stage with the app. -/
lemma Adds.exists_branch {g : App → Mount} {configure : Builder → Assembly Builder}
    (h : Adds b configure s g b' s') :
    ∃ branch s₁ app s₂, (configure b.branch).exec s = (.ok branch, s₁) ∧
      branch.buildApp.exec s₁ = (.ok app, s₂) ∧
      b' = { b with stages := b.stages ++ [(g app).stage] } ∧ s₂.SameBut s' := by
  cases h with
  | path h =>
    unfold map at h
    obtain ⟨_, s₀, hcheck, h⟩ := Assembly.exists_of_exec_bind h
    obtain ⟨-, rfl⟩ := Prod.mk.inj hcheck
    obtain ⟨branch, s₁, hconfigure, h⟩ := Assembly.exists_of_exec_bind h
    obtain ⟨app, s₂, hbuild, h⟩ := Assembly.exists_of_exec_bind h
    exact ⟨branch, s₁, app, s₂, hconfigure, hbuild, eq_of_useStage rfl h, sameBut_of_useStage h⟩
  | test h =>
    obtain ⟨branch, s₁, hconfigure, h⟩ := Assembly.exists_of_exec_bind h
    obtain ⟨app, s₂, hbuild, h⟩ := Assembly.exists_of_exec_bind h
    exact ⟨branch, s₁, app, s₂, hconfigure, hbuild, eq_of_useStage rfl h, sameBut_of_useStage h⟩

end Builder

/-! ## The stages that a build calls -/

/-- The stage that a move calls. -/
def Move.stage? : Move → Option Stage
  | .bring _ => none
  | .call st => some st

namespace Builder

/-- A build calls each of its stages once, the last one first. -/
lemma filterMap_stage?_moves (b : Builder) (t : Convention) :
    (b.moves t).filterMap Move.stage? = b.stages.reverse := by
  have hstages (l : List Stage) : (l.flatMap Stage.moves).filterMap Move.stage? = l := by
    induction l with
    | nil => rfl
    | cons st l ih =>
      rw [List.flatMap_cons, List.filterMap_append, ih]
      rfl
  rw [moves, List.filterMap_append, hstages]
  exact List.append_nil _

/-- The calls among the deeds of a build are those of the stages, the last one first. -/
lemma filterMap_stage?_of_moves {b : Builder} {t : Convention} {deeds : List Deed}
    (h : deeds.map Deed.move = b.moves t) :
    deeds.filterMap (fun d => d.move.stage?) = b.stages.reverse := by
  rw [← b.filterMap_stage?_moves t, ← h, List.filterMap_map]
  rfl

/-- Behind the call of a stage the app is brought to the convention of the stage. -/
lemma exists_bring_of_call {b : Builder} {t : Convention} {pre rest : List Move} {st : Stage}
    (h : b.moves t = pre ++ .call st :: rest) : ∃ post, rest = .bring st.convention :: post := by
  have hstages (l : List Stage) (pre : List Move)
      (h : l.flatMap Stage.moves ++ [.bring t] = pre ++ .call st :: rest) :
      ∃ post, rest = .bring st.convention :: post := by
    induction l generalizing pre with
    | nil =>
      rcases pre with _ | ⟨m, _ | ⟨m', pre⟩⟩ <;> cases h
    | cons x l ih =>
      -- the call is the one of `x`, or it is behind the three moves of `x`
      match pre with
      | [] => cases h
      | [_] => cases h; exact ⟨_, rfl⟩
      | [_, _] => cases h
      | _ :: _ :: _ :: pre =>
        simp only [List.flatMap_cons, Stage.moves, List.cons_append, List.nil_append,
          List.cons.injEq] at h
        exact ih pre h.2.2.2
  exact hstages _ _ h

/-- A build that succeeds has made all of its moves, from the terminal app on, and reports. -/
lemma exists_deeds_of_buildValue {b : Builder} {t : Convention} {s s' : State} {out : Value}
    (h : (b.buildValue t).exec s = (.ok out, s')) :
    ∃ deeds s₁, Deeds b.conversions (b.terminal s) s deeds out s₁ ∧
      deeds.map Deed.move = b.moves t ∧
      s₁.SameBut s' := by
  obtain ⟨deeds, rest, app, s₁, hmoves, hdeeds, hend⟩ :=
    exists_deeds b.conversions (b.moves t) (b.terminal s) s
  have hmade := hdeeds.exec_makeMoves rest
  rw [← hmoves] at hmade
  rw [buildValue_eq_makeMoves, Assembly.exec_get_bind] at h
  obtain rfl | ⟨m, rest', e, s₂, rfl, hfails⟩ := hend
  · rw [Assembly.exec_bind_ok hmade] at h
    have hreport : (b.announce t app).exec s₁ = (.ok app, _) := rfl
    cases hreport.symm.trans h
    exact ⟨deeds, s₁, hdeeds, by rw [hmoves, List.append_nil], ⟨rfl, rfl, rfl, rfl, rfl, rfl⟩⟩
  · rw [makeMoves_cons, Assembly.exec_bind_error hfails] at hmade
    rw [Assembly.exec_bind_error hmade] at h
    cases h

end Builder

/-- The first of some moves that have been made. -/
lemma Deeds.exists_head {k : RegistryId} {app app' : Value} {s s' : State} {ds : List Deed}
    (h : Deeds k app s ds app' s') {m : Move} {rest : List Move}
    (hmoves : ds.map Deed.move = m :: rest) :
    ∃ d ds', ds = d :: ds' ∧ (m.run k app).exec s = (.ok d.output, d.after) := by
  cases h with
  | nil => cases hmoves
  | @cons d ds _ _ hd _ =>
    obtain ⟨rfl, -⟩ := List.cons.inj hmoves
    exact ⟨d, ds, rfl, hd⟩

/-! ## What a branch answers -/

namespace Mount

/-- The app of a branch. -/
def branch : Mount → App
  | path _ branch => branch
  | test _ branch => branch

/-- What a request for a branch that acts as `act` is answered: under a path the branch sees the
path that remains, and the path and the path base are given back. -/
def answer (act : Environment → Environment) : Mount → Environment → Environment
  | path p _, e => App.runMounted p ((Route.remainder? p e.path).getD "") act e
  | test _ _, e => act e

/-- A request for the branch is answered by the branch, and any other request by what is behind. -/
lemma run_wrap (m : Mount) (next : App) (held : CellId → Option App) (depth : Nat)
    (e : Environment) :
    (m.wrap next).run held depth e =
      if m.isFor e then m.answer (m.branch.run held depth) e else next.run held depth e := by
  have hwrap (h : CellId → Option (Environment → Environment)) : (m.wrap next).runWith h e =
      if m.isFor e then m.answer (m.branch.runWith h) e else next.runWith h e := by
    cases m with
    | path p branch =>
      rw [wrap, App.runWith, isFor]
      cases hp : Route.remainder? p e.path with
      | none => rfl
      | some rest => simp [answer, Mount.branch, hp]
    | test c branch => rw [wrap, App.runWith, isFor, answer, Mount.branch]
  cases depth with
  | zero => exact hwrap _
  | succ depth => exact hwrap _

/-- Wherever the stage of a branch is called in a build, the call leaves the state as it is, and
what the build goes on with is the mount in front of the app that the call was given. -/
def Placed (m : Mount) (deeds : List Deed) : Prop :=
  ∀ pre d post, deeds = pre ++ d :: post → d.move = .call m.stage → d.after = d.before ∧
    ∃ next d' post', post = d' :: post' ∧ d.input.content? = some (.app .func next) ∧
      d'.output.content? = some (.app .func (m.wrap next))

/-- In a build the branch is only put in its place. -/
lemma placed_of_deeds {m : Mount} {b : Builder} {t : Convention} {deeds : List Deed}
    {app out : Value} {s s' : State} (hdeeds : Deeds b.conversions app s deeds out s')
    (hmoves : deeds.map Deed.move = b.moves t) : m.Placed deeds := by
  rintro pre d post rfl hd
  obtain ⟨u, s₁, -, hdeeds⟩ := hdeeds.split
  rw [List.map_append, List.map_cons, hd] at hmoves
  obtain ⟨rest, hrest⟩ := Builder.exists_bring_of_call hmoves.symm
  cases hdeeds with
  | cons hcall hpost =>
    rw [hd, Move.run, ← Stage.apply_eq_call] at hcall
    obtain ⟨next, hnext⟩ := m.exists_of_apply_stage hcall
    obtain ⟨hmade, hafter⟩ := Prod.mk.inj (hcall.symm.trans (m.exec_apply_stage hnext _))
    obtain ⟨d', post', rfl, hbring⟩ := hpost.exists_head hrest
    obtain ⟨out', s₂, hout, hcontent⟩ := m.exists_convertIn_made next b.conversions d.after
    rw [Except.ok.inj hmade] at hbring
    cases hbring.symm.trans hout
    exact ⟨hafter, next, d', post', rfl, hnext, hcontent⟩

end Mount

/-- The branch of a mount is the app that it was made with. -/
lemma Builder.Adds.branch_eq {b b' : Builder} {configure : Builder → Assembly Builder}
    {s s' : State} {g : App → Mount} (h : b.Adds configure s g b' s') (app : App) :
    (g app).branch = app := by
  cases h <;> rfl

/-! ## Parents with nothing but branches -/

namespace Builder

/-- A builder with branches only has them in front of the terminal app of the bag, which has become
a function of the environment. -/
lemma exists_routes_of_buildApp {b : Builder} {ms : List Mount} (hne : ms ≠ [])
    (hstages : b.stages = ms.map Mount.stage) {a : App} {s s' : State}
    (h : b.buildApp.exec s = (.ok a, s')) :
    ∃ w s₁ last, (convertIn b.conversions (b.terminal s) (.object .appFunc)).exec s = (.ok w, s₁) ∧
      w.content? = some (.app .func last) ∧ ∀ e, Mount.Routes a ms last e := by
  obtain ⟨app, s₂, out, s₃, hfold, hconvert, hout⟩ := exists_of_buildApp h
  obtain ⟨ms', m, rfl⟩ := (List.eq_nil_or_concat ms).resolve_left hne
  rw [hstages, List.concat_eq_append, List.map_append, List.reverse_append] at hfold
  obtain ⟨w, s₁, last, hw, hlast, v, s₄, hv, hrest⟩ := exists_of_fold_mount hfold
  obtain ⟨app', s₅, hchain, happ⟩ := content_of_fold_mounts (k := b.conversions) ms' hv s₄
  cases hrest.symm.trans hchain
  obtain ⟨s₆, hstill, -⟩ :=
    exec_convertIn_func happ (t := Convention.ofShape .appFunc) rfl b.conversions s₂
  cases hconvert.symm.trans hstill
  cases hout.symm.trans happ
  refine ⟨w, s₁, last, hw, hlast, fun e => ?_⟩
  have hroutes := Mount.routes_chain (ms' ++ [m]) last e
  rw [List.concat_eq_append]
  rwa [Mount.chain, List.foldr_append] at hroutes

/-! ## Branches stay what they are -/

/-- **A branch that has been added is frozen.** A branch is added under a path or for a test, in
whatever way it is configured. Then its stages have been called once each, the last one first, and
around the terminal app and with the conversions that there were when it had been configured; the
parent has got a stage with the app that this has made. From then on any commands may follow: writes
to the bag, also of another terminal app, registrations, stages of the parent, calls and builds. As
long as no component in the footprint of that app is told anything in them:

* Wherever the mount of the branch stands, a request for the branch is answered by the app of the
  first day as it was then, and any other request by what is behind the mount now.
* The stage of the branch does nothing when it is called. A build calls every stage of the parent
  once, and no others; it starts with the terminal app that the bag holds when it starts, and puts
  the mount in front of what it has made of it so far.
* A parent with branches only hands the requests that are for none of them to that terminal app.

What configures the branch comes only to what is there, as programs do (`Reached.closed`).

**Proof sketch.** Adding a branch is building it and adding a stage with its app
(`Adds.exists_branch`). The build has made its moves (`exists_deeds_of_buildValue`) and leaves no
loose ends (`keeps_buildValue`), so that the app depends on its footprint only, which the commands
spare (`App.run_eq_of_spared`). The stage of a branch does nothing but put its mount in front of the
next app (`Mount.placed_of_deeds`). -/
theorem branch_is_frozen {b b' : Builder} {configure : Builder → Assembly Builder} {s s' : State}
    {g : App → Mount} (hadd : b.Adds configure s g b' s')
    (hconfigure : ∀ branch s₁, (configure b.branch).exec s = (.ok branch, s₁) →
      s₁.Closed ∧ ∀ st ∈ branch.stages, Below s₁.cells.length st.cells) :
    ∃ branch s₁ app, (configure b.branch).exec s = (.ok branch, s₁) ∧
      b' = { b with stages := b.stages ++ [(g app).stage] } ∧
      (∃ deeds v s₂, Deeds branch.conversions (branch.terminal s₁) s₁ deeds v s₂ ∧
        deeds.filterMap (fun d => d.move.stage?) = branch.stages.reverse ∧
        v.content? = some (.app .func app) ∧ s₂.SameBut s') ∧
      ∀ s'', Later {c | s'.Reaches app c} s' s'' →
        (∀ next depth e, ((g app).wrap next).run s''.heldApp depth e =
          if (g app).isFor e then (g app).answer (app.run s'.heldApp depth) e
          else next.run s''.heldApp depth e) ∧
        (∀ v, ∃ r, ((g app).stage.apply v).exec s'' = (r, s'')) ∧
        (∀ (parent : Builder) t v s₃, (parent.buildValue t).exec s'' = (.ok v, s₃) →
          ∃ deeds s₄, Deeds parent.conversions (parent.terminal s'') s'' deeds v s₄ ∧
            deeds.filterMap (fun d => d.move.stage?) = parent.stages.reverse ∧
            (g app).Placed deeds ∧ s₄.SameBut s₃) ∧
        ∀ (parent : Builder) ms, g app ∈ ms → parent.stages = ms.map Mount.stage →
          ∀ a s₃, parent.buildApp.exec s'' = (.ok a, s₃) → ∃ w s₄ last,
            (convertIn parent.conversions (parent.terminal s'') (.object .appFunc)).exec s'' =
              (.ok w, s₄) ∧
            w.content? = some (.app .func last) ∧ ∀ e, Mount.Routes a ms last e := by
  obtain ⟨branch, s₁, app, s₂, hbranch, hbuild, hb', hsame⟩ := hadd.exists_branch
  obtain ⟨hs₁, hbelow⟩ := hconfigure branch s₁ hbranch
  obtain ⟨v, hvalue, hv⟩ := exists_buildValue_of_buildApp hbuild
  obtain ⟨deeds, s₃, hdeeds, hmoves, hreported⟩ := exists_deeds_of_buildValue hvalue
  refine ⟨branch, s₁, app, hbranch, hb', ⟨deeds, v, s₃, hdeeds, ?_, hv, hreported.trans hsame⟩,
    fun s'' hlater => ⟨fun next depth e => ?_, fun v => (g app).exists_apply_stage v s'',
      fun parent t v' s₄ hparent => ?_, fun parent ms hmem hstages a s₄ hparent => ?_⟩⟩
  · exact filterMap_stage?_of_moves hmoves
  · -- the app leads only to what is there, and so it depends on nothing that has changed
    obtain ⟨hs₂, hcells⟩ := (branch.keeps_buildValue hbelow _).of_exec hs₁ hvalue
    have hs' : s'.Closed := hs₂.congr hsame.bags hsame.registries hsame.cells hsame.vars
    have happ : Below s'.cells.length app.cells := by
      have hcontent : app.cells = v.cells := Value.cells_content? hv
      rwa [hcontent, hsame.cells]
    rw [Mount.run_wrap, hadd.branch_eq]
    have hrun : app.run s''.heldApp depth = app.run s'.heldApp depth :=
      funext (App.run_eq_of_spared happ hs' hlater depth)
    rw [hrun]
  · obtain ⟨deeds', s₅, hdeeds', hmoves', hreported'⟩ := exists_deeds_of_buildValue hparent
    exact ⟨deeds', s₅, hdeeds', filterMap_stage?_of_moves hmoves',
      Mount.placed_of_deeds hdeeds' hmoves', hreported'⟩
  · exact exists_routes_of_buildApp (List.ne_nil_of_mem hmem) hstages hparent

/-- A component that is made anew stands in a branch under a path. The parent is built when the bag
holds another terminal app, and only requests for other paths come to it. -/
theorem branch_is_frozen_under_path :
    let configure := fun branch : Builder =>
      (pure { branch with stages := [.constructing "j"] } : Assembly Builder)
    let other : App := .leaf ⟨"other", none⟩
    ∃ b' s' app a s'',
      ((⟨0, 0, []⟩ : Builder).map "/a" configure).exec (State.fresh 0) = (.ok b', s') ∧
      b'.stages = [(Mount.path "/a" app).stage] ∧
      b'.buildApp.exec
        ((Command.setProperty b' defaultAppKey (.bound (.app .func other))).exec s') =
        (.ok a, s'') ∧
      (∀ e, Mount.Routes a [.path "/a" app] other e) ∧
      ∀ next depth e, ((Mount.path "/a" app).wrap next).run s''.heldApp depth e =
        if (Mount.path "/a" app).isFor e then
          (Mount.path "/a" app).answer (app.run s'.heldApp depth) e
        else next.run s''.heldApp depth e := by
  intro configure other
  let app : App := .delegate (.delegate (.resumed ⟨"j", none⟩ 0))
  let b' : Builder := ⟨0, 0, [(Mount.path "/a" app).stage]⟩
  let t := Convention.ofShape .appFunc
  let s' := (((⟨0, 0, []⟩ : Builder).map "/a" configure).exec (State.fresh 0)).2
  let s₁ := (Command.setProperty b' defaultAppKey (.bound (.app .func other))).exec s'
  have hmap : ((⟨0, 0, []⟩ : Builder).map "/a" configure).exec (State.fresh 0) = (.ok b', s') := rfl
  obtain ⟨branch, s₀, app', -, hb', -, hfrozen⟩ := branch_is_frozen (.path hmap) (by
    rintro branch s₀ ⟨⟩
    exact ⟨.fresh 0, List.forall_mem_singleton.2 (.nil _)⟩)
  obtain rfl : app = app' := by
    have hstages : [(Mount.path "/a" app).stage] = [(Mount.path "/a" app').stage] :=
      congrArg Builder.stages hb'
    simpa [Mount.stage] using hstages
  have hlater : Later {c | s'.Reaches app c} s' s₁ :=
    .step .start (.setProperty b' defaultAppKey (.bound (.app .func other))) (.of_eq rfl)
  have hspares : s₁.Spares {c | s'.Reaches app c} ((Command.build b' t).exec s₁) := by
    have htold : ((Command.build b' t).exec s₁).told = s₁.told := by decide +kernel
    exact .of_eq htold
  let a := (Mount.path "/a" app).wrap other
  have hbuild : b'.buildApp.exec s₁ = (.ok a, (b'.buildApp.exec s₁).2) := Prod.ext rfl rfl
  obtain ⟨v, hvalue, -⟩ := exists_buildValue_of_buildApp hbuild
  have hafter : (Command.build b' t).exec s₁ = (b'.buildApp.exec s₁).2 := congrArg Prod.snd hvalue
  obtain ⟨-, -, -, hroutes⟩ := hfrozen s₁ hlater
  obtain ⟨w, s₂, last, hw, hlast, hroutes⟩ :=
    hroutes b' [.path "/a" app] (List.mem_singleton_self _) rfl _ _ hbuild
  have hstill : ((convertIn 0 (.bound (.app .func other)) (.object .appFunc)).exec s₁).1 =
      .ok (.bound (.app .func other)) := rfl
  obtain rfl : w = .bound (.app .func other) :=
    Except.ok.inj ((congrArg Prod.fst hw).symm.trans hstill)
  obtain rfl : other = last := by simpa [Value.content?] using hlast
  obtain ⟨hanswers, -⟩ := hfrozen _ (.step hlater (.build b' t) hspares)
  rw [hafter] at hanswers
  exact ⟨b', s', app, a, _, hmap, rfl, hbuild, hroutes, hanswers⟩

/-- A component that the terminal app of a branch belongs to is told another app when it is a stage
of the parent too, and so the branch answers differently, although nothing that configures the
branch has to do with the component. -/
theorem branch_thaws_by_shared_terminal :
    let b : Builder := ⟨0, 0, []⟩
    let shared : Value := .component (.crafted 0 "i" (Stage.wiredOps "i") none 0)
    let e := { Environment.blank with path := "/a" }
    let s := (Command.setProperty b defaultAppKey shared).exec (State.fresh 1)
    ∃ b' s₁ a s₂ b'' s₃, (b.map "/a" (pure : Builder → Assembly Builder)).exec s = (.ok b', s₁) ∧
      b'.buildApp.exec s₁ = (.ok a, s₂) ∧
      (b'.useStage shared []).exec ((Command.setProperty b' defaultAppKey notFoundValue).exec s₂) =
        (.ok b'', s₃) ∧
      (s₃.serve a e).status = 200 ∧
      (((Command.build b'' (Convention.ofShape .appFunc)).exec s₃).serve a e).status = 404 :=
  ⟨_, _, _, _, _, _, rfl, rfl, rfl, rfl, rfl⟩

end Builder

end Pipework
