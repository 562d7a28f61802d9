import Mathlib.Data.List.Nodup
import Mathlib.Data.List.Perm.Subperm
import Pipework.Proofs.Stage.Wrap

set_option autoImplicit false

/-!
# Pipelines are onions

However the stages of a pipeline are written, the pipeline runs the layers of all of them around the
terminal app: on the way in from the first stage to the last, then the terminal app once, and on the
way out from the last stage to the first.

## Main definitions

* `Onion` — an app that runs layers around another app, with the cells in which the layers find what
  they are around.

## Main results

* `Onion.of_made` — what a stage makes is an onion with one more layer.
* `Builder.fold_onion_step`, `Builder.fold_onion` — putting one stage, and all of them, around an
  onion.
* `Builder.buildApp_runs_layers` — the pipeline that a builder builds.
-/

namespace Pipework

/-! ## Onions -/

/-- An app runs `layers` around the app `terminal`. Some of the layers find what they are around in
the cells `live`, and do so as long as those hold what they hold in `s`. -/
structure Onion (s : State) (terminal : App) (layers : List Layer) (live : List CellId) (a : App) :
    Prop where
  nodup : live.Nodup
  lt_length : ∀ c ∈ live, c < s.cells.length
  run_eq : ∀ held : CellId → Option App, (∀ c ∈ live, held c = s.heldApp c) → ∀ depth e,
    a.run held (depth + live.length) e =
      Layer.exits layers e (terminal.run held depth (Layer.enters layers e))

namespace Onion

variable {s s' : State} {terminal a : App} {layers : List Layer} {live : List CellId}

/-- An app without layers. -/
lemma core (s : State) (terminal : App) : Onion s terminal [] [] terminal :=
  ⟨List.nodup_nil, nofun, fun _ _ _ _ => rfl⟩

/-- An app with the same behaviour. -/
lemma congr {a' : App} (h : Onion s terminal layers live a)
    (ha : ∀ held depth, a'.run held depth = a.run held depth) :
    Onion s terminal layers live a' where
  __ := h
  run_eq held hheld depth e := by rw [ha, h.run_eq held hheld]

/-- An onion stays what it is when other cells change. -/
lemma frame {touched : Set CellId} (h : Onion s terminal layers live a)
    (hs : State.Frame touched s s') (hlive : ∀ c ∈ live, c ∉ touched) :
    Onion s' terminal layers live a where
  nodup := h.nodup
  lt_length c hc := (h.lt_length c hc).trans_le hs.length_cells_le
  run_eq held hheld := by
    refine h.run_eq held fun c hc => ?_
    rw [hheld c hc, State.heldApp, State.heldApp, State.cell, State.cell,
      hs.cell_eq c (h.lt_length c hc) (hlive c hc)]

/-- Every cell is passed through at most once, so that there are at least as many cells as layers
that need one. -/
lemma length_live_le (h : Onion s terminal layers live a) : live.length ≤ s.cells.length := by
  have hsub : live ⊆ List.range s.cells.length := fun c hc => List.mem_range.2 (h.lt_length c hc)
  simpa using (List.subperm_of_subset h.nodup hsub).length_le

variable {l : Layer} (hl : l.IsWrapper)
include hl

/-- A layer around an onion. -/
lemma around (h : Onion s terminal layers live a) :
    Onion s terminal (l :: layers) live (.over l a) where
  nodup := h.nodup
  lt_length := h.lt_length
  run_eq held hheld depth e := by
    rw [App.run_over, Layer.run_of_isWrapper hl, h.run_eq held hheld]
    rfl

/-- A layer around an onion that is found in a cell. -/
lemma resumed {c : CellId} (h : Onion s terminal layers live a) (hc : c ∉ live)
    (hlt : c < s.cells.length) (hheld : s.heldApp c = some a) :
    Onion s terminal (l :: layers) (c :: live) (.resumed l c) where
  nodup := List.nodup_cons.2 ⟨hc, h.nodup⟩
  lt_length := List.forall_mem_cons.2 ⟨hlt, h.lt_length⟩
  run_eq held hlive depth e := by
    obtain ⟨hfirst, hrest⟩ := List.forall_mem_cons.1 hlive
    rw [List.length_cons, ← Nat.add_assoc, App.run_resumed, hfirst, hheld, Option.map_some,
      Layer.run_of_isWrapper hl, h.run_eq held hrest]
    rfl

/-- What a stage makes from an onion is an onion with one more layer. -/
lemma of_made {cs : List CellId} {v : Value} (h : Onion s terminal layers live a)
    (hmade : Made s l a cs v) (hcs : ∀ c ∈ cs, c ∉ live) :
    ∃ a', v.StandsFor a' ∧ Onion s terminal (l :: layers) (cs ++ live) a' := by
  cases hmade with
  | @around _ a' hv ha => exact ⟨a', hv, (h.around hl).congr ha⟩
  | @resumed _ c hv hlt hheld =>
    exact ⟨.resumed l c, hv, h.resumed hl (hcs c (List.mem_singleton_self c)) hlt hheld⟩

end Onion

/-! ## Putting stages around an onion -/

namespace Builder

/-- Putting one stage around an onion adds its layer, and the other stages go on from there. A cell
that the layer needs is that of the component which the stage tells, or a new one.

**Proof sketch.** The next app is brought to the convention of the stage (`convertIn_of_standsFor`),
the stage makes a value that stands for its layer around it (`Stage.exec_apply_of_layers`), and that
value is brought to the convention again. No step changes a cell that the onion already needs,
because the stage keeps out of these. -/
lemma fold_onion_step {k : RegistryId} {terminal : App} {st : Stage} (hst : st.Wraps)
    {rest : List Stage} {app : Value} {form : AppForm} {a : App} (hform : form ≠ .legacy)
    (happ : app.content? = some (.app form a)) {s : State} {layers : List Layer}
    {live : List CellId} (honion : Onion s terminal layers live a)
    (hcell : ∀ c ∈ st.factory.touches, c ∉ live ∧ c < s.cells.length)
    (hs : s.registry k = .builtin)
    (hquiet : ((fold k (st :: rest) app).exec s).2.registrations = s.registrations) :
    ∃ app' s' form' a' l cs, (fold k (st :: rest) app).exec s = (fold k rest app').exec s' ∧
      form' ≠ .legacy ∧ app'.content? = some (.app form' a') ∧ st.Layers l ∧
      Onion s' terminal (l :: layers) (cs ++ live) a' ∧
      (∀ c ∈ cs, st.cell? = some c ∨ s.cells.length ≤ c) ∧ s.cells.length ≤ s'.cells.length ∧
      s'.registry k = .builtin ∧
      ((fold k rest app').exec s').2.registrations = s'.registrations := by
  obtain ⟨form', hform', hhandle⟩ := hst.convention
  obtain ⟨l₀, hl₀, hwrapper⟩ := hst.layers
  have happly := fun next : Value => (st.frames_apply next).mono (Set.subset_univ _)
  have hafter := fun made : Value =>
    (frames_convertIn k made st.convention).bind fun app => frames_fold k rest app
  have hwhole := fun next : Value => (happly next).bind hafter
  unfold fold at hquiet
  -- the next app comes to the convention of the stage
  obtain ⟨next, s₁, hnext, a₁, hnextApp, ha₁⟩ :=
    convertIn_of_standsFor hs (.app hform happ) hform' hhandle
  obtain ⟨hreg, hquiet⟩ := (frames_convertIn k app _).quiet_of_bind hwhole hnext hquiet
  have hs₁ : s₁.registry k = .builtin := (hreg k).trans hs
  have hframe₁ : State.Frame ∅ s s₁ := by
    simpa [hnext] using frames_convertIn_builtin hs app st.convention
  have honion₁ : Onion s₁ terminal layers live a₁ :=
    (honion.frame hframe₁ fun _ _ => id).congr ha₁
  -- the stage is applied
  have hshape : next.shape = st.convention.handle := by
    rw [hhandle, ← Value.shape_of_mem_content? hnextApp]
    rfl
  obtain ⟨made, s₂, l, cs, hmade, hl, hacts, hstands, hcs⟩ :=
    Stage.exec_apply_of_layers hst.resolved.sound hst.gives hnextApp hshape hl₀ (s := s₁)
      fun c hc => (hcell c (Stage.mem_touches_of_cell? hl₀ hc)).2.trans_le hframe₁.length_cells_le
  obtain ⟨hreg, hquiet⟩ := (happly next).quiet_of_bind hafter hmade hquiet
  have hs₂ : s₂.registry k = .builtin := (hreg k).trans hs₁
  have hframe₂ : State.Frame st.factory.touches s₁ s₂ := by
    simpa [hmade] using st.frames_apply next s₁
  have honion₂ : Onion s₂ terminal layers live a₁ :=
    honion₁.frame hframe₂ fun c hc ht => (hcell c ht).1 hc
  have hnew : ∀ c ∈ cs, c ∉ live := by
    intro c hc hlive
    obtain h | h := hcs c hc
    · exact (hcell c (Stage.mem_touches_of_cell? hl h)).1 hlive
    · exact absurd (honion₁.lt_length c hlive) h.not_gt
  obtain ⟨a₂, hv, honion₂⟩ :=
    honion₂.of_made (fun acts h => hwrapper acts (hacts ▸ h)) hstands hnew
  -- what it makes comes to the convention again
  obtain ⟨app', s₃, happ', a₃, hcontent, ha₃⟩ := convertIn_of_standsFor hs₂ hv hform' hhandle
  obtain ⟨hreg, hquiet⟩ :=
    (frames_convertIn k made _).quiet_of_bind (frames_fold k rest) happ' hquiet
  have hframe₃ : State.Frame ∅ s₂ s₃ := by
    simpa [happ'] using frames_convertIn_builtin hs₂ made st.convention
  have honion₃ : Onion s₃ terminal (l :: layers) (cs ++ live) a₃ :=
    (honion₂.frame hframe₃ fun _ _ => id).congr ha₃
  refine ⟨app', s₃, form', a₃, l, cs, ?_, hform', hcontent, hl, honion₃, ?_, ?_,
    (hreg k).trans hs₂, hquiet⟩
  · rw [fold, Assembly.exec_bind_ok hnext, Assembly.exec_bind_ok hmade,
      Assembly.exec_bind_ok happ']
  · exact fun c hc => (hcs c hc).imp_right hframe₁.length_cells_le.trans
  · exact (hframe₁.length_cells_le.trans hframe₂.length_cells_le).trans hframe₃.length_cells_le

/-- Putting stages around an onion adds their layers.

**Proof sketch.** Induction on the stages, one step for each (`fold_onion_step`). The stages that
are applied later on keep out of the cells that the onion needs so far: each of these is new, or
belongs to the component that a stage before has told. -/
lemma fold_onion {k : RegistryId} {terminal : App} {stages : List Stage}
    (hstages : ∀ st ∈ stages, st.Wraps) (hseparate : stages.Pairwise Stage.Separate) {app : Value}
    {form : AppForm} {a : App} (hform : form ≠ .legacy)
    (happ : app.content? = some (.app form a)) {s : State} {layers : List Layer}
    {live : List CellId} (honion : Onion s terminal layers live a)
    (hfresh : ∀ st ∈ stages, ∀ c ∈ st.factory.touches, c ∉ live ∧ c < s.cells.length)
    (hs : s.registry k = .builtin)
    (hquiet : ((fold k stages app).exec s).2.registrations = s.registrations) :
    ∃ out s' form' a' layers' live', (fold k stages app).exec s = (.ok out, s') ∧
      form' ≠ .legacy ∧ out.content? = some (.app form' a') ∧
      List.Forall₂ Stage.Layers stages.reverse layers' ∧
      Onion s' terminal (layers' ++ layers) live' a' ∧ s'.registry k = .builtin := by
  induction stages generalizing app form a s layers live with
  | nil => exact ⟨app, s, form, a, [], live, rfl, hform, happ, .nil, honion, hs⟩
  | cons st rest ih =>
    obtain ⟨hfirst, hseparate⟩ := List.pairwise_cons.1 hseparate
    obtain ⟨app₁, s₁, form₁, a₁, l, cs, hstep, hform₁, happ₁, hl, honion₁, hcs, hle, hs₁,
      hquiet₁⟩ := fold_onion_step (hstages st List.mem_cons_self) hform happ honion
        (hfresh st List.mem_cons_self) hs hquiet
    have hfresh₁ : ∀ st' ∈ rest, ∀ c ∈ st'.factory.touches,
        c ∉ cs ++ live ∧ c < s₁.cells.length := by
      intro st' hst' c hc
      obtain ⟨hnot, hlt⟩ := hfresh st' (List.mem_cons_of_mem _ hst') c hc
      refine ⟨fun hm => (List.mem_append.1 hm).elim (fun hm => ?_) hnot, hlt.trans_le hle⟩
      obtain hcell | hge := hcs c hm
      · exact (hfirst st' hst').1 c hcell hc
      · exact absurd hlt hge.not_gt
    obtain ⟨out, s', form', a', layers', live', hexec, hform', hout, hlayers, honion', hs'⟩ :=
      ih (fun st h => hstages st (List.mem_cons_of_mem _ h)) hseparate hform₁ happ₁ honion₁
        hfresh₁ hs₁ hquiet₁
    refine ⟨out, s', form', a', layers' ++ [l], live', hstep.trans hexec, hform', hout, ?_, ?_, hs'⟩
    · rw [List.reverse_cons]
      exact List.rel_append hlayers (.cons hl .nil)
    · rwa [List.append_assoc, List.singleton_append]

/-- A build that registers nothing does not do so for the value that it builds either. -/
lemma buildValue_quiet {b : Builder} {s : State}
    (hquiet : (b.buildApp.exec s).2.registrations = s.registrations) :
    ((b.buildValue (Convention.ofShape .appFunc)).exec s).2.registrations = s.registrations := by
  have hbuild : ((b.build .appFunc).exec s).2.registrations = s.registrations := by
    unfold buildApp at hquiet
    refine (b.frames_build .appFunc).quiet_first (fun c => ?_) hquiet
    split <;> exact .pure _
  unfold build at hbuild
  refine (b.frames_buildValue _).quiet_first (fun v => ?_) hbuild
  split
  · exact .pure _
  · exact .throw _

/-- When the stages have been put around the terminal app and the result is a function of the
environment, the builder gives that function. -/
lemma exec_buildApp {b : Builder} {s s₁ s₂ : State} {app out : Value} {a : App}
    (hfold : (fold b.conversions b.stages.reverse (b.terminal s)).exec s = (.ok app, s₁))
    (hconvert : (convertIn b.conversions app (Convention.ofShape .appFunc)).exec s₁ = (.ok out, s₂))
    (hout : out.content? = some (.app .func a)) :
    ∃ s', b.buildApp.exec s = (.ok a, s') ∧ State.Frame ∅ s₂ s' := by
  have hreport : State.Frame ∅ s₂ _ :=
    frames_reportBuilt b.stages.length (Convention.ofShape .appFunc) out s₂
  have hget : out.get? .appFunc = some (.app .func a) := by
    rw [Value.get?, hout]
    rfl
  have hvalue : ∃ s', (b.buildValue (Convention.ofShape .appFunc)).exec s = (.ok out, s') ∧
      State.Frame ∅ s₂ s' := by
    refine ⟨_, ?_, hreport⟩
    rw [buildValue, Assembly.exec_get_bind, Assembly.exec_bind_ok hfold,
      Assembly.exec_bind_ok hconvert]
    rfl
  obtain ⟨s', hvalue, hframe⟩ := hvalue
  have hbuild : (b.build .appFunc).exec s = (.ok (.app .func a), s') := by
    rw [build, Assembly.exec_bind_ok hvalue, hget]
    rfl
  refine ⟨s', ?_, hframe⟩
  rw [buildApp, Assembly.exec_bind_ok hbuild]
  rfl

/-- A builder gives a handle of a type when that is what it has built as a value. -/
lemma exists_buildValue_of_build {b : Builder} {type : Shape} {s s' : State} {c : Content}
    (h : (b.build type).exec s = (.ok c, s')) :
    ∃ v, (b.buildValue (Convention.ofShape type)).exec s = (.ok v, s') ∧
      v.content? = some c ∧ c.shape = type := by
  obtain ⟨v, s₁, hvalue, hget⟩ := Assembly.exists_of_exec_bind h
  cases hcontent : v.get? type with
  | none =>
    rw [hcontent] at hget
    cases hget
  | some d =>
    rw [hcontent] at hget
    cases hget
    simp only [Value.get?, Option.bind_eq_some_iff, Option.ite_none_right_eq_some] at hcontent
    obtain ⟨d, hd, hshape, hdc⟩ := hcontent
    cases hdc
    exact ⟨v, hvalue, hd, hshape⟩

/-- What is built as a function of the environment is one, so that no build comes to the last case
of `Builder.buildApp`. -/
lemma exists_app_of_build {b : Builder} {s s' : State} {c : Content}
    (h : (b.build .appFunc).exec s = (.ok c, s')) : ∃ a, c = .app .func a := by
  obtain ⟨-, -, -, hshape⟩ := exists_buildValue_of_build h
  exact Content.exists_app .func hshape

/-- A builder gives a function of the environment when that is what it has built as a value. -/
lemma exists_buildValue_of_buildApp {b : Builder} {s s' : State} {a : App}
    (h : b.buildApp.exec s = (.ok a, s')) :
    ∃ v, (b.buildValue (Convention.ofShape .appFunc)).exec s = (.ok v, s') ∧
      v.content? = some (.app .func a) := by
  obtain ⟨c, s₂, hbuild, hc⟩ := Assembly.exists_of_exec_bind h
  obtain ⟨a', rfl⟩ := exists_app_of_build hbuild
  cases hc
  obtain ⟨v, hvalue, hv, -⟩ := exists_buildValue_of_build hbuild
  exact ⟨v, hvalue, hv⟩

/-- When a builder gives a function of the environment, the stages have been put around the terminal
app and the result has become that function. -/
lemma exists_of_buildApp {b : Builder} {s s' : State} {a : App}
    (h : b.buildApp.exec s = (.ok a, s')) :
    ∃ app s₁ out s₂, (fold b.conversions b.stages.reverse (b.terminal s)).exec s = (.ok app, s₁) ∧
      (convertIn b.conversions app (Convention.ofShape .appFunc)).exec s₁ = (.ok out, s₂) ∧
      out.content? = some (.app .func a) := by
  obtain ⟨v, hvalue, hv⟩ := exists_buildValue_of_buildApp h
  rw [buildValue, Assembly.exec_get_bind] at hvalue
  obtain ⟨app, s₁, hfold, hvalue⟩ := Assembly.exists_of_exec_bind hvalue
  obtain ⟨out, s₂, hconvert, hreport⟩ := Assembly.exists_of_exec_bind hvalue
  obtain ⟨rfl, -⟩ : out = v ∧ _ := by
    simpa only [Assembly.exec_lift_bind, Assembly.exec_pure, Prod.mk.injEq, Except.ok.injEq] using
      hreport
  exact ⟨app, s₁, out, s₂, hfold, hconvert, hv⟩

/-- **The onion law.** Whichever of the five ways its stages are written in, a pipeline of stages
that wrap apps builds, and what it builds runs on every environment the layers of the stages on the
way in, from the first stage to the last, then the terminal app once, and then the layers on the
way out, from the last stage to the first.

**Proof sketch.** The fold over the stages makes an onion of the terminal app (`fold_onion`), which
the last conversion makes a function. Every layer that looks for the next app in a cell passes
through one component state, and no two of them through the same one. -/
theorem buildApp_runs_layers {b : Builder} {s : State} (hstages : ∀ st ∈ b.stages, st.Wraps)
    (hseparate : b.stages.Pairwise Stage.Separate)
    (hthere : ∀ st ∈ b.stages, ∀ c ∈ st.factory.touches, c < s.cells.length) {form : AppForm}
    {terminal : App} (hform : form ≠ .legacy)
    (hterminal : (b.terminal s).content? = some (.app form terminal))
    (hregistry : s.registry b.conversions = .builtin)
    (hquiet : (b.buildApp.exec s).2.registrations = s.registrations) :
    ∃ a s' layers, b.buildApp.exec s = (.ok a, s') ∧ List.Forall₂ Stage.Layers b.stages layers ∧
      ∃ k ≤ s'.cells.length,
        (∀ depth e, a.run s'.heldApp (depth + k) e =
          Layer.exits layers e (terminal.run s'.heldApp depth (Layer.enters layers e))) ∧
        ∀ e, s'.serve a e = Layer.exits layers e
          (terminal.run s'.heldApp (s'.cells.length - k + State.returnLimit)
            (Layer.enters layers e)) := by
  have hfoldQuiet : ((fold b.conversions b.stages.reverse (b.terminal s)).exec s).2.registrations =
      s.registrations := by
    have hvalue := buildValue_quiet hquiet
    rw [buildValue, Assembly.exec_get_bind] at hvalue
    exact (frames_fold _ _ _).quiet_first
      (fun _ => (frames_convertIn _ _ _).bind (frames_reportBuilt _ _)) hvalue
  have hreversed : b.stages.reverse.Pairwise Stage.Separate :=
    List.pairwise_reverse.2 (hseparate.imp Stage.Separate.symm)
  obtain ⟨app, s₁, form₁, a₁, layers, live, hfold, hform₁, happ, hlayers, honion, hs₁⟩ :=
    fold_onion (fun st h => hstages st (List.mem_reverse.1 h)) hreversed hform hterminal
      (Onion.core s terminal)
      (fun st h c hc => ⟨List.not_mem_nil, hthere st (List.mem_reverse.1 h) c hc⟩)
      hregistry hfoldQuiet
  rw [List.reverse_reverse] at hlayers
  rw [List.append_nil] at honion
  -- what the fold gives comes to the type of functions
  have hfunc : AppForm.func ≠ .legacy := nofun
  obtain ⟨out, s₂, hconvert, a₂, hout, ha₂⟩ := convertIn_of_standsFor hs₁ (.app hform₁ happ) hfunc
    (t := Convention.ofShape .appFunc) rfl
  have hframe₂ : State.Frame ∅ s₁ s₂ := by
    simpa [hconvert] using frames_convertIn_builtin hs₁ app (Convention.ofShape .appFunc)
  obtain ⟨s₃, hbuild, hframe₃⟩ := exec_buildApp hfold hconvert hout
  have honion₃ : Onion s₃ terminal layers live a₂ :=
    (honion.frame (hframe₂.trans hframe₃) fun _ _ => id).congr ha₂
  have hrun := honion₃.run_eq s₃.heldApp fun _ _ => rfl
  have hle := honion₃.length_live_le
  refine ⟨a₂, s₃, layers, hbuild, hlayers, live.length, hle, hrun, fun e => ?_⟩
  rw [← hrun, State.serve]
  congr 1
  omega

/-- The five ways around each other, and around the app that answers every request with status
404. -/
theorem buildApp_runs_layers_five_ways :
    ∃ a s' layers, (⟨0, 0, [.wrapping "f" 7, .layered ⟨"g", some [.next]⟩, .invoking "h" 0,
        .wired "i" 1, .constructing "j"]⟩ : Builder).buildApp.exec (State.fresh 2) = (.ok a, s') ∧
      layers.length = 5 ∧ ∀ e, s'.serve a e =
        Layer.exits layers e { Layer.enters layers e with status := 404 } := by
  have hstages : ∀ st ∈ [Stage.wrapping "f" 7, .layered ⟨"g", some [.next]⟩, .invoking "h" 0,
      .wired "i" 1, .constructing "j"], st.Wraps := by
    have hg : (Stage.layered ⟨"g", some [.next]⟩).Wraps :=
      Stage.layered_wraps (Layer.isWrapper_of_mem rfl (.head _))
    simp only [List.forall_mem_cons]
    exact ⟨Stage.wrapping_wraps _ _, hg, Stage.invoking_wraps _ _, Stage.wired_wraps _ _,
      Stage.constructing_wraps _, List.forall_mem_nil _⟩
  have hseparate : [Stage.wrapping "f" 7, .layered ⟨"g", some [.next]⟩, .invoking "h" 0,
      .wired "i" 1, .constructing "j"].Pairwise Stage.Separate := by
    simp [Stage.Separate, Stage.cell?, Stage.wrapping, Stage.layered, Stage.invoking, Stage.wired,
      Stage.constructing, Factory.touches, Routine.touches]
  have hthere : ∀ st ∈ [Stage.wrapping "f" 7, .layered ⟨"g", some [.next]⟩, .invoking "h" 0,
      .wired "i" 1, .constructing "j"],
      ∀ c ∈ st.factory.touches, c < (State.fresh 2).cells.length := by
    simp [Stage.wrapping, Stage.layered, Stage.invoking, Stage.wired, Stage.constructing,
      Factory.touches, Routine.touches, State.fresh]
  have hfunc : AppForm.func ≠ .legacy := by decide
  obtain ⟨a, s', layers, hbuild, hlayers, k, -, -, hserve⟩ :=
    buildApp_runs_layers (b := ⟨0, 0, _⟩) (s := State.fresh 2) hstages hseparate hthere hfunc
      rfl rfl rfl
  refine ⟨a, s', layers, hbuild, hlayers.length_eq.symm, fun e => ?_⟩
  rw [hserve e, App.run_notFound]

/-- A conversion that a stage registers while the pipeline is built puts marks of its own around the
app: here the second stage replaces the conversion by which the first one gets its next app, and by
which the component that the first one makes is brought to its convention again. -/
theorem registered_conversion_adds_marks :
    let b : Builder := ⟨0, 0, [.constructing "j", .registering "g"]⟩
    (∀ st ∈ b.stages, st.Wraps) ∧ b.stages.Pairwise Stage.Separate ∧
      (b.terminal (State.fresh 0)).content? = some (.app .func .notFound) ∧
      ((State.fresh 0).registry b.conversions) = .builtin ∧
      ∃ a s', b.buildApp.exec (State.fresh 0) = (.ok a, s') ∧
        ∀ layers, List.Forall₂ Stage.Layers b.stages layers → s'.serve a .blank ≠
          Layer.exits layers .blank { Layer.enters layers .blank with status := 404 } := by
  intro b
  obtain ⟨a, s', hbuild, hserved⟩ : ∃ a s', b.buildApp.exec (State.fresh 0) = (.ok a, s') ∧
      (s'.serve a .blank).marks = 8 := ⟨_, _, rfl, by decide +kernel⟩
  refine ⟨?_, ?_, rfl, rfl, a, s', hbuild, fun layers hlayers h => ?_⟩
  · exact List.forall_mem_cons.2 ⟨Stage.constructing_wraps _,
      List.forall_mem_singleton.2 (Stage.registering_wraps _)⟩
  · simp [b, Stage.Separate, Stage.cell?, Stage.constructing, Stage.registering, Factory.touches,
      Routine.touches]
  · -- two layers leave four marks
    obtain _ | ⟨hf, _ | ⟨hg, _ | _⟩⟩ := hlayers
    have hj : Layer.acts _ = none := congrArg Layer.acts (hf.eq_of_construct rfl rfl)
    have hacts : ∀ l ∈ [_, _], Layer.acts l = none :=
      List.forall_mem_cons.2 ⟨hj, List.forall_mem_singleton.2 (hg.acts_eq rfl)⟩
    have hmarks := congrArg Environment.marks h
    have henters : (Environment.marks { Layer.enters [_, _] .blank with status := 404 }) = 2 :=
      Layer.marks_enters hacts .blank
    rw [Layer.marks_exits hacts, henters, hserved] at hmarks
    cases hmarks

end Builder

end Pipework
