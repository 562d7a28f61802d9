import Pipework.Proofs.Builder.Reached

set_option autoImplicit false

/-!
# Built apps are stable

What happens after a build does not reach into the app that was built, with one exception. A
component that is told the next app keeps it in its cell, and every build that tells it something
again replaces what earlier apps find there. As long as the components in the footprint of an app
are not told anything, the app stays what it is, whatever happens to bags, registries and stages.

## Main definitions

* `State.Spares` — from one state to another no component with a cell in a set was told anything.
* `Later` — a sequence of commands that spare a set of cells.

## Main results

* `Later.frame` — a sequence of sparing commands leaves the cells alone.
* `Builder.run_eq_of_later` — an app that was built stays the same.
* `Builder.rebuild_changes_app` — a component that is told the next app is shared by all builds.
-/

namespace Pipework

variable {R : Set CellId}

/-! ## Sparing commands -/

/-- From `s` to `s'` no component with a cell in `R` is told anything: none of its operations that
keep what they are told runs, whether a stage, a converter or a call asks for it. -/
def State.Spares (R : Set CellId) (s s' : State) : Prop :=
  ∃ l, s'.told = s.told ++ l ∧ ∀ c ∈ l, c ∉ R

/-- Where nothing is told to any component, all of them are spared. -/
lemma State.Spares.of_eq {s s' : State} (h : s'.told = s.told) : s.Spares R s' :=
  ⟨[], by rw [h, List.append_nil], nofun⟩

/-- From `s` on, some commands have been carried out, each of them sparing `R`. To mount a branch is
to carry out the commands that configure it, to build it and to add a stage. -/
inductive Later (R : Set CellId) (s : State) : State → Prop
  | start : Later R s s
  | step {s' : State} (h : Later R s s') (c : Command) (hc : s'.Spares R (c.exec s')) :
      Later R s (c.exec s')

/-! ## What they leave alone -/

/-- What spares some components does not change what they hold. -/
lemma State.Frame.of_spares {touched : Set CellId} {s s' : State} (h : State.Frame touched s s')
    (hspares : s.Spares R s') : State.Frame Rᶜ s s' := by
  obtain ⟨l, hl, -⟩ := h.exists_tells
  obtain ⟨l', htold, hnot⟩ := hspares
  obtain rfl : l = l' := List.append_cancel_left (hl.told.symm.trans htold)
  exact ⟨h.exists_registers, l, hl, hnot⟩

/-- A command changes no cell without telling its component something. -/
lemma Command.frame (c : Command) (s : State) : State.Frame Set.univ s (c.exec s) := by
  cases c with
  | register b v =>
    have hregister : (Assembly.register b.conversions v).Composed Set.univ := .register _ v
    exact hregister.frames s
  | callRegister k v =>
    have hcall := (Routine.register k).composed_invoke [v]
    exact (hcall.frames.mono (Set.subset_univ _)) s
  | registerByBag b v => exact Assembly.frames_registerByBag Set.univ b.properties v s
  | setProperty b key v => exact .of_eq (.updateBag s b.properties _) rfl rfl
  | removeProperty b key => exact .of_eq (.updateBag s b.properties _) rfl rfl
  | useStage b v args =>
    refine .of_eq (b.registers_useStage v args s) ?_ ?_ <;> rw [Command.exec] <;>
      cases hst : Stage.resolve v args with
      | ok st => rw [b.exec_useStage_ok hst]
      | error e => rw [b.exec_useStage_error hst]
  | invoke v args => exact (v.composed_invoke args).frames s
  | convert b v t => exact frames_convertIn b.conversions v t s
  | build b t => exact b.frames_buildValue t s

/-- Commands that spare some components do not change what these hold. -/
lemma Later.frame {s s' : State} (h : Later R s s') : State.Frame Rᶜ s s' := by
  induction h with
  | start => exact .refl _ s
  | step _ c hc ih => exact ih.trans ((c.frame _).of_spares hc)

/-- An app that leads only to what is there does the same after commands that spare its footprint.
-/
lemma App.run_eq_of_spared {a : App} {s s' : State} (ha : Below s.cells.length a.cells)
    (hs : s.Closed) (h : Later {c | s.Reaches a c} s s') (depth : Nat) (e : Environment) :
    a.run s'.heldApp depth e = a.run s.heldApp depth e := by
  refine App.run_congr (fun c hc => ?_) depth e
  rw [State.heldApp, State.heldApp, State.cell, State.cell,
    h.frame.cell_eq c (hs.lt_length ha hc) fun hnot => hnot hc]

/-! ## Stability -/

namespace Builder

/-- **Built apps are stable.** Take any app that a builder has built, and carry out any commands
afterwards: with the same builder or others, writes to the bag, removals, registrations, stages,
conversions, calls and further builds. As long as no component in the footprint of the app is told
anything in them, the app makes of every environment what it has made of it right after it was
built, however many component states a call may pass through. An answer that does not run into the
limit on these is the same.

The state and the builder lead only to what is there; programs come to no others (`Reached.closed`).

**Proof sketch.** A build leaves no loose ends (`keeps_buildValue`), so that the footprint of the
app is there when it has been built. No cell that is there changes without its component being told
something (`Later.frame`), and the app depends on nothing but its footprint (`App.run_congr`). -/
theorem run_eq_of_later {b : Builder} {t : Convention} {s s' s'' : State} (hs : s.Closed)
    (hb : ∀ st ∈ b.stages, Below s.cells.length st.cells) {v : Value}
    (hbuild : (b.buildValue t).exec s = (.ok v, s')) {form : AppForm} {a : App}
    (hv : v.content? = some (.app form a)) (hlater : Later {c | s'.Reaches a c} s' s'') :
    (∀ depth e, a.run s''.heldApp depth e = a.run s'.heldApp depth e) ∧
      ∀ e, (∀ depth ≥ s'.cells.length + State.returnLimit,
        a.run s'.heldApp depth e = s'.serve a e) → s''.serve a e = s'.serve a e := by
  obtain ⟨hs', hbelow⟩ := (b.keeps_buildValue hb t).of_exec hs hbuild
  have ha : Below s'.cells.length a.cells := by
    have hcells : a.cells = v.cells := Value.cells_content? hv
    rwa [hcells]
  have hrun := App.run_eq_of_spared ha hs' hlater
  refine ⟨hrun, fun e hsettled => ?_⟩
  rw [← hsettled (s''.cells.length + State.returnLimit)
    (Nat.add_le_add_right hlater.frame.length_cells_le _), State.serve, hrun]

/-- A component that is made anew by every build keeps the app that it was made from, whatever the
bag says at a later build. -/
theorem run_eq_of_later_made_anew :
    let b : Builder := ⟨0, 0, [.constructing "j"]⟩
    let t := Convention.ofShape .appFunc
    let other : Value := .bound (.app .func (.leaf ⟨"other", none⟩))
    ∃ v a s', (b.buildValue t).exec (State.fresh 0) = (.ok v, s') ∧
      v.content? = some (.app .func a) ∧ ∀ e,
        ((Command.build b t).exec ((Command.setProperty b defaultAppKey other).exec s')).serve a e =
          s'.serve a e := by
  intro b t other
  let a : App := .delegate (.delegate (.resumed ⟨"j", none⟩ 0))
  let s' := ((b.buildValue t).exec (State.fresh 0)).2
  let s₁ := (Command.setProperty b defaultAppKey other).exec s'
  have hvalue : ((b.buildValue t).exec (State.fresh 0)).1 = .ok (.data (.app .func a)) := rfl
  have hbuild : (b.buildValue t).exec (State.fresh 0) = (.ok (.data (.app .func a)), s') :=
    Prod.ext hvalue rfl
  have hstages : ∀ st ∈ b.stages, Below (State.fresh 0).cells.length st.cells := by
    intro st hst
    obtain rfl : st = .constructing "j" := List.mem_singleton.1 hst
    exact .nil _
  have hspares : s₁.Spares {c | s'.Reaches a c} ((Command.build b t).exec s₁) := by
    have htold : ((Command.build b t).exec s₁).told = s₁.told := by decide +kernel
    exact .of_eq htold
  have hlater : Later {c | s'.Reaches a c} s' _ :=
    .step (.step .start (.setProperty b defaultAppKey other) (.of_eq rfl)) (.build b t) hspares
  have hrun : ∀ depth ≥ s'.cells.length + State.returnLimit, ∀ e, a.run s'.heldApp depth e =
      (⟨"j", none⟩ : Layer).run (some fun e => { e with status := 404 }) e := by
    intro depth hdepth e
    have hlimit : 2 ≤ State.returnLimit := by decide
    obtain ⟨k, rfl⟩ := Nat.exists_eq_add_of_le (hlimit.trans ((Nat.le_add_left _ _).trans hdepth))
    rw [Nat.add_comm]
    rfl
  obtain ⟨-, hserve⟩ := run_eq_of_later (.fresh 0) hstages hbuild rfl hlater
  refine ⟨_, a, s', hbuild, rfl, fun e => hserve e fun depth hdepth => ?_⟩
  rw [State.serve, hrun depth hdepth, hrun _ le_rfl]

/-- A component that is told the next app is shared by all builds of a builder. A second build, with
another terminal app, reaches into the app of the first one; a write to the bag alone does not. -/
theorem rebuild_changes_app :
    let b : Builder := ⟨0, 0, [.wired "i" 0]⟩
    let other : Value := .bound (.app .func (.leaf ⟨"other", none⟩))
    ∃ a s₁, b.buildApp.exec (State.fresh 1) = (.ok a, s₁) ∧
      let s₂ := (Command.setProperty b defaultAppKey other).exec s₁
      let s₃ := (Command.build b (Convention.ofShape .appFunc)).exec s₂
      (s₁.serve a .blank).status = 404 ∧ (s₂.serve a .blank).status = 404 ∧
        (s₃.serve a .blank).status = 200 :=
  ⟨_, _, rfl, rfl, rfl, rfl⟩

end Builder

end Pipework
