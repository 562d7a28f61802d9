import Pipework.Proofs.Engine.Composed

set_option autoImplicit false

/-!
# What a computation leaves alone

Calls can do many things on the side. This file says what they cannot do. A registry changes only by
registrations, which are reported, and the state of a component that is there changes only if one of
its own operations makes its arguments that state.

## Main definitions

* `State.Tells` — from one state to another some components were told something.
* `State.Frame` — from one state to another nothing was changed besides the cells in a set.
* `Engine.Frames`, `Assembly.Frames` — a computation from whichever state to the one it leaves.

## Main results

* `Engine.Composed.frames` — a composition of operations changes no other cells than they do.
* `Assembly.Frames.quiet_of_bind` — what registers nothing does so in none of its parts.
-/

namespace Pipework

/-! ## Frames -/

/-- From `s` to `s'` the components with the cells `l` are told something, in this order. Among the
cells that are there in `s` no others change. -/
structure State.Tells (l : List CellId) (s s' : State) : Prop where
  told : s'.told = s.told ++ l
  length_cells_le : s.cells.length ≤ s'.cells.length
  cell_eq : ∀ c < s.cells.length, c ∉ l → s'.cells[c]? = s.cells[c]?

namespace State.Tells

variable {l l' : List CellId} {s s₁ s' : State}

/-- A step that tells no component anything. -/
lemma of_eq (htold : s'.told = s.told) (hcells : s'.cells = s.cells) : Tells [] s s' where
  told := by rw [htold, List.append_nil]
  length_cells_le := by rw [hcells]
  cell_eq _ _ _ := by rw [hcells]

/-- One step after the other tells what both tell. -/
lemma trans (h : Tells l s s₁) (h' : Tells l' s₁ s') : Tells (l ++ l') s s' where
  told := by rw [h'.told, h.told, List.append_assoc]
  length_cells_le := h.length_cells_le.trans h'.length_cells_le
  cell_eq c hc hn := by
    rw [List.mem_append, not_or] at hn
    rw [h'.cell_eq c (hc.trans_le h.length_cells_le) hn.2, h.cell_eq c hc hn.1]

end State.Tells

/-- From `s` to `s'` the registries change only by registrations, and among the cells that are there
in `s` only those in `touched` change, because their components are told something. -/
structure State.Frame (touched : Set CellId) (s s' : State) : Prop where
  exists_registers : ∃ l, State.Registers l s s'
  exists_tells : ∃ l, State.Tells l s s' ∧ ∀ c ∈ l, c ∈ touched

namespace State.Frame

variable {touched touched' : Set CellId} {s s₁ s' : State}

/-- Nothing has happened. -/
lemma refl (touched : Set CellId) (s : State) : Frame touched s s :=
  ⟨⟨_, .refl s⟩, [], .of_eq rfl rfl, nofun⟩

/-- One step after the other changes what one of them changes. -/
lemma trans (h : Frame touched s s₁) (h' : Frame touched s₁ s') : Frame touched s s' where
  exists_registers := by
    obtain ⟨l, hl⟩ := h.exists_registers
    obtain ⟨l', hl'⟩ := h'.exists_registers
    exact ⟨l ++ l', hl.trans hl'⟩
  exists_tells := by
    obtain ⟨l, hl, htouched⟩ := h.exists_tells
    obtain ⟨l', hl', htouched'⟩ := h'.exists_tells
    exact ⟨l ++ l', hl.trans hl', fun c hc =>
      (List.mem_append.1 hc).elim (htouched c) (htouched' c)⟩

/-- A step that changes cells in a set changes cells in any larger one. -/
lemma mono (h : Frame touched s s') (hsub : touched ⊆ touched') : Frame touched' s s' where
  exists_registers := h.exists_registers
  exists_tells := by
    obtain ⟨l, hl, htouched⟩ := h.exists_tells
    exact ⟨l, hl, fun c hc => hsub (htouched c hc)⟩

/-- A step without registrations that tells no component anything. -/
lemma of_eq (hregisters : State.Registers [] s s') (htold : s'.told = s.told)
    (hcells : s'.cells = s.cells) : Frame touched s s' :=
  ⟨⟨_, hregisters⟩, [], .of_eq htold hcells, nofun⟩

/-- Components that are there stay there. -/
lemma length_cells_le (h : Frame touched s s') : s.cells.length ≤ s'.cells.length := by
  obtain ⟨l, hl, -⟩ := h.exists_tells
  exact hl.length_cells_le

/-- The other cells hold what they held. -/
lemma cell_eq (h : Frame touched s s') (c : CellId) (hc : c < s.cells.length) (hn : c ∉ touched) :
    s'.cells[c]? = s.cells[c]? := by
  obtain ⟨l, hl, htouched⟩ := h.exists_tells
  exact hl.cell_eq c hc fun hm => hn (htouched c hm)

/-- Registrations are never taken back. -/
lemma registrations_le (h : Frame touched s s') : s.registrations ≤ s'.registrations := by
  obtain ⟨l, hl⟩ := h.exists_registers
  have := hl.registrations_eq
  omega

/-- Without a report no registry changes. -/
lemma registry_eq (h : Frame touched s s') (hquiet : s'.registrations = s.registrations)
    (r : RegistryId) : s'.registry r = s.registry r := by
  obtain ⟨l, hl⟩ := h.exists_registers
  exact hl.registry_eq_of_quiet hquiet r

end State.Frame

/-! ## Computations -/

variable {α β : Type} {touched touched' : Set CellId}

/-- A computation changes nothing besides the cells in `touched`. -/
def Engine.Frames (touched : Set CellId) (x : Engine α) : Prop :=
  ∀ s, State.Frame touched s (x.exec s).2

/-- The same for a computation that may fail. -/
def Assembly.Frames (touched : Set CellId) (x : Assembly α) : Prop :=
  ∀ s, State.Frame touched s (x.exec s).2

/-- A computation that is composed of operations changes nothing besides the cells in `touched`. -/
lemma Engine.Composed.frames {x : Engine α} (h : x.Composed touched) : x.Frames touched := by
  -- a step that leaves the registries and the cells alone
  have still {α : Type} {x : Engine α} (hx : ∀ s, State.Registers [] s (x.exec s).2 ∧
      (x.exec s).2.told = s.told ∧ (x.exec s).2.cells = s.cells) : x.Frames touched :=
    fun s => .of_eq (hx s).1 (hx s).2.1 (hx s).2.2
  induction h with
  | pure a => exact fun s => .refl _ s
  | bind _ _ ihx ihf => exact fun s => (ihx s).trans (ihf _ _)
  | observe _ _ ih => exact fun s => ih s s
  | logCall line => exact still fun s => ⟨.of_eq rfl rfl rfl, rfl, rfl⟩
  | raise c n => exact still fun s => ⟨.of_eq rfl rfl rfl, rfl, rfl⟩
  | report e he => exact still fun s => ⟨.of_eq rfl rfl (by simp [he]), rfl, rfl⟩
  | newCell entries =>
    intro s
    have htells : State.Tells [] s ((Engine.newCell entries).exec s).2 :=
      ⟨(List.append_nil _).symm, by simp, fun c hc _ => by simp [List.getElem?_append_left hc]⟩
    exact ⟨⟨_, .of_eq rfl rfl rfl⟩, [], htells, nofun⟩
  | @setCell c hc entries =>
    intro s
    have htells : State.Tells [c] s ((Engine.setCell c entries).exec s).2 := by
      refine ⟨rfl, by simp, fun d _ hd => ?_⟩
      have hne : c ≠ d := fun h => hd (List.mem_singleton.2 h.symm)
      simp [List.getElem?_set_ne hne]
    exact ⟨⟨_, .of_eq rfl rfl rfl⟩, [c], htells, fun _ hd => List.mem_singleton.1 hd ▸ hc⟩
  | setProperty p key v => exact still fun s => ⟨.updateBag s p _, rfl, rfl⟩
  | addConversion r hc =>
    intro s
    exact ⟨⟨_, Engine.registers_addConversion r hc s⟩, [], .of_eq rfl rfl, nofun⟩

/-- The same for a computation that may fail. -/
lemma Assembly.Composed.frames {x : Assembly α} (h : x.Composed touched) : x.Frames touched :=
  Engine.Composed.frames h

namespace Assembly.Frames

/-- More cells may be named than are changed. -/
lemma mono {x : Assembly α} (h : x.Frames touched) (hsub : touched ⊆ touched') :
    x.Frames touched' := fun s => (h s).mono hsub

/-- A success changes nothing. -/
lemma pure (a : α) : Assembly.Frames touched (Pure.pure a) := fun s => .refl _ s

/-- A failure changes nothing. -/
lemma throw (e : BuildError) : Assembly.Frames touched (throw e : Assembly α) :=
  fun s => .refl _ s

/-- A sequence changes what its parts change. -/
lemma bind {x : Assembly α} {f : α → Assembly β} (hx : x.Frames touched)
    (hf : ∀ a, (f a).Frames touched) : Assembly.Frames touched (x >>= f) := by
  intro s
  have h := hx s
  rw [exec_bind]
  revert h
  rcases exec x s with ⟨_ | a, s₁⟩
  · exact id
  · exact fun h => h.trans (hf a s₁)

/-- Looking at the state changes nothing. -/
lemma get_bind {f : State → Assembly β} (hf : ∀ s, (f s).Frames touched) :
    Assembly.Frames touched (get >>= f) := fun s => by
  rw [exec_get_bind]
  exact hf s s

/-- When a sequence of computations registers nothing, neither does its first part, after which the
registries are what they were, nor the rest. -/
lemma quiet_of_bind {x : Assembly α} {f : α → Assembly β} (hx : x.Frames touched)
    (hf : ∀ a, (f a).Frames touched) {s s₁ : State} {a : α} (h : exec x s = (.ok a, s₁))
    (hquiet : (exec (x >>= f) s).2.registrations = s.registrations) :
    (∀ r, s₁.registry r = s.registry r) ∧
      (exec (f a) s₁).2.registrations = s₁.registrations := by
  have hfirst : State.Frame touched s s₁ := by simpa [h] using hx s
  have hrest := (hf a s₁).registrations_le
  rw [exec_bind_ok h] at hquiet
  have heq : s₁.registrations = s.registrations :=
    le_antisymm (hquiet ▸ hrest) hfirst.registrations_le
  exact ⟨hfirst.registry_eq heq, hquiet.trans heq.symm⟩

/-- When a sequence of computations registers nothing, neither does its first part. -/
lemma quiet_first {x : Assembly α} {f : α → Assembly β} (hx : x.Frames touched)
    (hf : ∀ a, (f a).Frames touched) {s : State}
    (hquiet : (exec (x >>= f) s).2.registrations = s.registrations) :
    (exec x s).2.registrations = s.registrations := by
  refine le_antisymm ?_ (hx s).registrations_le
  rw [← hquiet, exec_bind]
  split
  · next a s₁ h => simpa [h] using (hf a s₁).registrations_le
  · next h => simp [h]

end Assembly.Frames

/-! ## Calls, conversions and builds -/

/-- Making contents ready for a cell changes nothing that is there. -/
lemma frames_hold (args : List Content) : (hold args).Frames touched := (composed_hold args).frames

/-- What a function does besides its result changes no cell. -/
lemma Func.frames_effects (f : Func) (trace : String) : (f.effects trace).Frames touched :=
  (f.composed_effects trace).frames

/-- A function changes the cell of its owner at most. -/
lemma Func.frames_run (f : Func) (owner : Option CellId) (args : List Content) :
    (f.run owner args).Frames (Routine.func f owner).touches := (f.composed_run owner args).frames

/-- A conversion changes the cells that the routines of the edges touch. -/
lemma frames_convert {edges : List Conversion} (hedges : ∀ c ∈ edges, c.routine.touches ⊆ touched)
    (v : Value) (t : Convention) : (convert edges v t).Frames touched :=
  (composed_convert hedges v t).frames

/-- In a conversion registries change by registrations only. -/
lemma frames_convertIn (r : RegistryId) (v : Value) (t : Convention) :
    (convertIn r v t).Frames Set.univ := (composed_convertIn r v t).frames

/-- A stage changes the cell that its routine touches. -/
lemma Stage.frames_apply (st : Stage) (next : Value) :
    (st.apply next).Frames st.factory.touches := (st.composed_apply next).frames

/-- So they do where stages are put around an app. -/
lemma Builder.frames_fold (r : RegistryId) (stages : List Stage) (app : Value) :
    (fold r stages app).Frames Set.univ := (composed_fold r stages app).frames

/-- The report on a build changes no registry and no cell. -/
lemma Builder.frames_reportBuilt (stages : Nat) (t : Convention) (app : Value) :
    Assembly.Frames touched (do
      Engine.report (.built stages t)
      Engine.raise (.build t.kind) 1
      Engine.raise (.buildDuration t.kind) 1
      Engine.raise .buildStages 1
      Engine.raise .stagesBuilt stages
      pure app : Assembly Value) :=
  (composed_reportBuilt stages t app).frames

/-- In a build registries change by registrations only. -/
lemma Builder.frames_buildValue (b : Builder) (t : Convention) :
    (b.buildValue t).Frames Set.univ :=
  .get_bind fun _ => (frames_fold _ _ _).bind fun _ =>
    (frames_convertIn _ _ t).bind (frames_reportBuilt _ t)

/-- So they do in a build of a value of a type. -/
lemma Builder.frames_build (b : Builder) (type : Shape) : (b.build type).Frames Set.univ := by
  refine (b.frames_buildValue _).bind fun v => ?_
  split
  · exact .pure _
  · exact .throw _

end Pipework
