import Pipework.Proofs.Builder.Frozen
import Pipework.Proofs.Builder.Mirror

set_option autoImplicit false

/-!
# Handlers cut pipelines

A handler answers every request that reaches it. What stands behind it is still built, but no
request comes there: whatever the stages behind a handler and the terminal app are, the app that is
built is the same. Stages behind the handler may make components, and then the components that are
made later get other numbers; for an app this makes no difference.

## Main definitions

* `State.LeadsTo` — the cells that stages and the conversions of a registry lead to.
* `State.Agree` — two states in which stages find the same.
* `Renumbering.beyond` — other numbers for the cells that are made from now on.

## Main results

* `State.agree_of_quiet` — a build without side effects leaves to stages what they find.
* `Builder.exists_of_buildValue_handling` — a build with a handler, up to the handler and from
  there.
* `Builder.buildValue_of_behind_error` — what fails behind a handler fails the build.
* `Builder.handler_cuts` — what is behind a handler makes no difference to the app.
-/

namespace Pipework

variable {k : RegistryId} {stages : List Stage} {s s' : State}

/-- States that differ in reports only hold the same apps. -/
lemma State.SameBut.heldApp_eq (h : s.SameBut s') : s'.heldApp = s.heldApp :=
  funext fun c => by rw [heldApp, heldApp, cell, cell, h.cells]

/-! ## What stages share -/

/-- The cells that some stages and the conversions of a registry lead to, also by what the
components hold that they lead to. -/
inductive State.LeadsTo (s : State) (k : RegistryId) (stages : List Stage) : CellId → Prop
  | stage {st : Stage} {c : CellId} (h : st ∈ stages) (hc : c ∈ st.cells) : LeadsTo s k stages c
  | edge {d : Conversion} {c : CellId} (h : d ∈ (s.registry k).edges)
      (hc : c ∈ d.routine.cells) : LeadsTo s k stages c
  | held {c d : CellId} (h : LeadsTo s k stages c) (hd : d ∈ heldCells (s.cell c)) :
      LeadsTo s k stages d

/-- Two states in which some stages find the same: the same conversions in the registry, and the
same in all cells that they lead to. -/
structure State.Agree (k : RegistryId) (stages : List Stage) (s s' : State) : Prop where
  registry : s'.registry k = s.registry k
  there : k < s'.registries.length ↔ k < s.registries.length
  cell_eq : ∀ c, s.LeadsTo k stages c → s'.cell c = s.cell c

namespace State

/-- In a closed state the cells are there that stages lead to, if their own cells are. -/
lemma LeadsTo.lt_length (hs : s.Closed) (hstages : ∀ st ∈ stages, Below s.cells.length st.cells)
    {c : CellId} (h : s.LeadsTo k stages c) : c < s.cells.length := by
  induction h with
  | stage h hc => exact hstages _ h _ hc
  | edge h hc => exact (hs.registry k) _ h _ hc
  | held _ hd _ => exact hs.held _ _ hd

/-- Stages lead to the same cells in states in which they find the same. -/
lemma LeadsTo.of_agree (h : s.Agree k stages s') {c : CellId} (hc : s.LeadsTo k stages c) :
    s'.LeadsTo k stages c := by
  induction hc with
  | stage h hc => exact .stage h hc
  | edge hd hc => exact .edge (h.registry ▸ hd) hc
  | held hc hd ih => exact .held ih (h.cell_eq _ hc ▸ hd)

namespace Agree

/-- Finding the same is symmetric, because both states lead to the same cells. -/
lemma symm (h : s.Agree k stages s') : s'.Agree k stages s := by
  refine ⟨h.registry.symm, h.there.symm, fun c hc => (h.cell_eq c ?_).symm⟩
  induction hc with
  | stage h hc => exact .stage h hc
  | edge hd hc => exact .edge (h.registry ▸ hd) hc
  | held _ hd ih => exact .held ih (h.cell_eq _ ih ▸ hd)

/-- Finding the same is transitive, because all states lead to the same cells. -/
lemma trans {s'' : State} (h : s.Agree k stages s') (h' : s'.Agree k stages s'') :
    s.Agree k stages s'' where
  registry := h'.registry.trans h.registry
  there := h'.there.trans h.there
  cell_eq c hc := (h'.cell_eq c (hc.of_agree h)).trans (h.cell_eq c hc)

/-- What is only reported makes no difference to stages. -/
lemma of_sameBut (h : s.SameBut s') : s.Agree k stages s' where
  registry := by rw [State.registry, State.registry, h.registries]
  there := by rw [h.registries]
  cell_eq c _ := by rw [State.cell, State.cell, h.cells]

end Agree

/-- A build leaves to some stages what they have found if it registers nothing and tells nothing to
the components that they lead to. -/
lemma agree_of_quiet {b : Builder} {t : Convention} (hs : s.Closed)
    (hbelow : ∀ st ∈ stages, Below s.cells.length st.cells)
    (hspares : s.Spares {c | s.LeadsTo b.conversions stages c} ((b.buildValue t).exec s).2)
    (hquiet : ((b.buildValue t).exec s).2.registrations = s.registrations) :
    s.Agree b.conversions stages ((b.buildValue t).exec s).2 := by
  have hframe := (b.frames_buildValue t s).of_spares hspares
  obtain ⟨l, hl⟩ := hframe.exists_registers
  refine ⟨hframe.registry_eq hquiet b.conversions, by rw [hl.length_registries], fun c hc => ?_⟩
  rw [State.cell, State.cell, hframe.cell_eq c (hc.lt_length hs hbelow) fun hnot => hnot hc]

end State

/-! ## Cells that are made from now on -/

/-- Moving all numbers from `n` on to those from `n'` on gives no two of them the same number. -/
lemma shift_inj {n n' i j : Nat} (hi : i < n ∧ i < n' ∨ n ≤ i) (hj : j < n ∧ j < n' ∨ n ≤ j)
    (h : (if i < n then i else n' + (i - n)) = if j < n then j else n' + (j - n)) : i = j := by
  split at h <;> split at h <;> omega

/-- Cells that are shared keep their numbers, and the cells from `n` on get those from `n'` on. -/
def Renumbering.beyond (shared : Set CellId) (n n' : Nat) (h : ∀ c ∈ shared, c < n ∧ c < n') :
    Renumbering where
  map c := if c < n then c else n' + (c - n)
  dom := {c | c ∈ shared ∨ n ≤ c}
  inj c hc d hd heq := shift_inj (hc.imp_left (h c)) (hd.imp_left (h d)) heq

/-- A shared cell keeps its number. -/
lemma Renumbering.map_beyond {shared : Set CellId} {n n' : Nat} (h : ∀ c ∈ shared, c < n ∧ c < n') :
    ∀ c ∈ shared, (beyond shared n n' h).map c = c := fun c hc => if_pos (h c hc).1

/-- States in which stages find the same hold the same, up to the numbers of the cells that are made
from now on. -/
lemma State.Agree.mirrors (h : s.Agree k stages s')
    (hlt : ∀ c ∈ {c | s.LeadsTo k stages c}, c < s.cells.length ∧ c < s'.cells.length) :
    s.Mirrors (.beyond {c | s.LeadsTo k stages c} s.cells.length s'.cells.length hlt) k s' := by
  have hmap := Renumbering.map_beyond hlt
  refine ⟨fun i => ⟨?_, ?_⟩, fun c hc => ?_, ?_, fun d hd c hc => .inl (.edge hd hc), h.there⟩
  · simp [Renumbering.beyond]
  · exact .inr (Nat.le_add_right _ _)
  · obtain hc | hc := hc
    · refine ⟨?_, fun d hd => .inl (.held hc hd)⟩
      rw [hmap c hc, h.cell_eq c hc, heldCells_renumber_eq_self fun d hd => hmap d (.held hc hd)]
    · -- cells that are not there hold nothing
      have hnone : s.cell c = [] := by simp [State.cell, List.getElem?_eq_none hc]
      have hnone' : s'.cell (s'.cells.length + (c - s.cells.length)) = [] := by simp [State.cell]
      rw [hnone]
      simp only [Renumbering.beyond, not_lt.2 hc, ↓reduceIte, hnone']
      exact ⟨rfl, .nil⟩
  · rw [h.registry, OrderedMap.mapValues_eq_self]
    exact fun d hd => Conversion.renumber_eq_self fun c hc => hmap c (.edge hd hc)

namespace Builder

/-! ## Builds with a handler -/

/-- Puts the stages around an app and brings the result to a convention. -/
def assemble (b : Builder) (t : Convention) (app : Value) : Assembly Value :=
  fold b.conversions b.stages.reverse app >>= fun app => convertIn b.conversions app t

/-- A build puts the stages around the terminal app, and reports that if it succeeds. -/
lemma exec_buildValue (b : Builder) (t : Convention) (s : State) :
    (b.buildValue t).exec s = (b.assemble t (b.terminal s) >>= b.announce t).exec s := by
  rw [assemble, bind_assoc]
  exact Assembly.exec_get_bind _ s

/-- Announcing what has been built gives it back and only reports. -/
lemma exec_announce (b : Builder) (t : Convention) (app : Value) (s : State) :
    ∃ s', (b.announce t app).exec s = (.ok app, s') ∧ s.SameBut s' :=
  ⟨_, rfl, rfl, rfl, rfl, rfl, rfl, rfl⟩

variable {p q : BagId} {pre post : List Stage} {h : App} {t : Convention}

/-- Stages are put around what is behind one of them, when that has come to its convention. -/
lemma assemble_append_cons (st : Stage) (app : Value) :
    assemble ⟨p, k, pre ++ st :: post⟩ t app =
      assemble ⟨p, k, post⟩ st.convention app >>= fun next =>
      st.apply next >>= fun made => convertIn k made st.convention >>= assemble ⟨p, k, pre⟩ t := by
  simp only [assemble, List.reverse_append, List.reverse_cons, List.append_assoc, fold_append,
    List.cons_append, List.nil_append, fold, bind_assoc]
  rfl

/-- A build that succeeds although there is a handler among the stages has first built what is
behind the handler, as a function of the environment, and has then gone on with the handler. -/
lemma exists_of_buildValue_handling {v : Value}
    (hbuild : (Builder.buildValue ⟨p, k, pre ++ .handling h :: post⟩ t).exec s = (.ok v, s')) :
    ∃ next s₁ s₂ s₃, (Builder.buildValue ⟨p, k, post⟩ (.object .appFunc)).exec s = (.ok next, s₁) ∧
      s₁.SameBut s₂ ∧
      (Builder.assemble ⟨p, k, pre⟩ t (.data (.app .func h))).exec s₂ = (.ok v, s₃) ∧
      s₃.SameBut s' := by
  rw [exec_buildValue, assemble_append_cons] at hbuild
  obtain ⟨out, s₃, hout, hannounce⟩ := Assembly.exists_of_exec_bind hbuild
  obtain ⟨next, s₁, hnext, happly⟩ := Assembly.exists_of_exec_bind hout
  obtain ⟨made, s₀, hmade, hconvert⟩ := Assembly.exists_of_exec_bind happly
  obtain ⟨rfl, hstays⟩ := eq_of_apply_handling hmade
  rw [hstays] at hconvert
  obtain ⟨app, s₂, happ, hrest⟩ := Assembly.exists_of_exec_bind hconvert
  obtain ⟨s₄, hstill, hsame⟩ := exec_convertIn_func (v := .data (.app .func h)) rfl
    (t := (Stage.handling h).convention) rfl k s₁
  cases happ.symm.trans hstill
  obtain ⟨s₅, hannounced, hreported⟩ := exec_announce ⟨p, k, pre ++ .handling h :: post⟩ t out s₃
  cases hannounce.symm.trans hannounced
  obtain ⟨s₆, hannounced, hbehind⟩ := exec_announce ⟨p, k, post⟩ (.object .appFunc) next s₁
  refine ⟨next, s₆, s₂, s₃, ?_, ?_, hrest, hreported⟩
  · rw [exec_buildValue]
    exact (Assembly.exec_bind_ok hnext).trans hannounced
  · exact ⟨hsame.bags.trans hbehind.bags.symm, hsame.registries.trans hbehind.registries.symm,
      hsame.cells.trans hbehind.cells.symm, hsame.vars.trans hbehind.vars.symm,
      hsame.calls.trans hbehind.calls.symm, hsame.told.trans hbehind.told.symm⟩

/-- What fails behind a handler fails the build. -/
lemma buildValue_of_behind_error {e : BuildError}
    (hbehind : (Builder.buildValue ⟨p, k, post⟩ (.object .appFunc)).exec s = (.error e, s')) :
    (Builder.buildValue ⟨p, k, pre ++ .handling h :: post⟩ t).exec s = (.error e, s') := by
  have hassemble : (assemble ⟨p, k, post⟩ (.object .appFunc) (terminal ⟨p, k, post⟩ s)).exec s =
      (.error e, s') := by
    rw [exec_buildValue, Assembly.exec_bind] at hbehind
    split at hbehind
    · next app s₁ _ =>
      obtain ⟨s₂, hannounced, -⟩ := exec_announce ⟨p, k, post⟩ (.object .appFunc) app s₁
      cases hbehind.symm.trans hannounced
    · next happ =>
      rw [happ]
      exact hbehind
  rw [exec_buildValue, assemble_append_cons]
  exact Assembly.exec_bind_error (Assembly.exec_bind_error hassemble)

/-- Stages that keep their numbers do the same around an app that keeps its numbers, whatever bags
there are. -/
lemma mirrored_assemble {ν : Renumbering} {app : Value}
    (hpre : ∀ st ∈ pre, ∀ c ∈ st.cells, c ∈ ν.dom ∧ ν.map c = c)
    (happ : ∀ c ∈ app.cells, c ∈ ν.dom ∧ ν.map c = c) :
    Assembly.Mirrored ν k ν.Values (assemble ⟨p, k, pre⟩ t app) (assemble ⟨q, k, pre⟩ t app) := by
  have hstages : pre.reverse.map (Stage.renumber ν.map) = pre.reverse := by
    refine (List.map_congr_left fun st hst => ?_).trans (List.map_id _)
    exact Stage.renumber_eq_self fun c hc => (hpre st (List.mem_reverse.1 hst) c hc).2
  have hcovers : ∀ st ∈ pre.reverse, ν.Covers st.cells :=
    fun st hst c hc => (hpre st (List.mem_reverse.1 hst) c hc).1
  have hfold := mirrored_fold (k := k) hcovers fun c hc => (happ c hc).1
  rw [hstages, Value.renumber_eq_self fun c hc => (happ c hc).2] at hfold
  refine hfold.bind fun out out' hout => ?_
  rw [hout.1]
  exact mirrored_convertIn hout.2 t

/-- From a handler on, builds in states in which the stages find the same come to apps that run in
the same way. -/
lemma exists_app_of_agree {s₁ s₂ : State} (hagree : s.Agree k (pre ++ [.handling h]) s')
    (hlt : ∀ c ∈ {c | s.LeadsTo k (pre ++ [.handling h]) c},
      c < s.cells.length ∧ c < s'.cells.length) {v v' : Value}
    (hv : (assemble ⟨p, k, pre⟩ t (.data (.app .func h))).exec s = (.ok v, s₁))
    (hv' : (assemble ⟨q, k, pre⟩ t (.data (.app .func h))).exec s' = (.ok v', s₂))
    {form : AppForm} {a : App} (ha : v.content? = some (.app form a)) :
    ∃ a', v'.content? = some (.app form a') ∧
      ∀ depth e, a'.run s₂.heldApp depth e = a.run s₁.heldApp depth e := by
  have hkeeps : ∀ st ∈ pre ++ [.handling h], ∀ c ∈ st.cells,
      c ∈ (Renumbering.beyond _ _ _ hlt).dom ∧ (Renumbering.beyond _ _ _ hlt).map c = c :=
    fun st hst c hc => ⟨.inl (.stage hst hc), Renumbering.map_beyond hlt c (.stage hst hc)⟩
  have hhandler : ∀ c ∈ (Value.data (.app .func h)).cells,
      c ∈ (Renumbering.beyond _ _ _ hlt).dom ∧ (Renumbering.beyond _ _ _ hlt).map c = c :=
    fun c hc => hkeeps (.handling h) (List.mem_append_right _ (List.mem_singleton_self _)) c
      (List.mem_append_left _ hc)
  have hrun := mirrored_assemble (p := p) (q := q) (k := k) (t := t)
    (fun st hst => hkeeps st (List.mem_append_left _ hst)) hhandler
  obtain ⟨⟨rfl, hcovers⟩, hmirrors⟩ := hrun.of_exec (hagree.mirrors hlt) hv hv'
  refine ⟨_, by rw [Value.content?_renumber, ha]; rfl, App.run_mirror hmirrors ?_⟩
  have hcells : a.cells = v.cells := Value.cells_content? ha
  rwa [hcells]

/-- A build makes components and takes none away. -/
lemma length_cells_le_of_buildValue {b : Builder} {v : Value} {s₁ : State}
    (hbuild : (b.buildValue t).exec s = (.ok v, s₁)) (hsame : s₁.SameBut s') :
    s.cells.length ≤ s'.cells.length := by
  have hframe := b.frames_buildValue t s
  rw [hbuild] at hframe
  exact hsame.cells ▸ hframe.length_cells_le

/-! ## What is behind a handler -/

/-- **A handler cuts a pipeline.** Two builders with the same conversions agree up to a handler, and
behind the handler they may have any stages and any terminal apps, also from different bags. They
are built in states in which the stages up to the handler find the same, and what is behind the
handler leaves it to them when it is built, as stages and conversions do that register nothing and
tell nothing to the components that those stages lead to (`State.agree_of_quiet`). Then, if both
builders build something to the same target and that is an app, the two apps make the same of every
environment, however many component states a call may pass through.

What is behind the handler is built all the same. In a build that succeeds every stage is called
once, also behind the handler, and when it does not come to what the stage of the handler takes, the
build fails in the same way.

The states and the stages up to the handler lead only to what is there; programs come to no others
(`Reached.closed`).

**Proof sketch.** A build first builds what is behind the handler, as a function of the environment,
and goes on with the handler (`exists_of_buildValue_handling`). From there on the two builds run
side by side (`mirrored_assemble`) in states that hold the same, up to the numbers of the components
that are made from now on (`State.Agree.mirrors`). So they come to apps that are the same up to
these numbers, and such apps run in the same way (`App.run_mirror`). -/
theorem handler_cuts {p₁ p₂ : BagId} {pre post₁ post₂ : List Stage} {s₁ s₂ : State}
    (hs₁ : s₁.Closed) (hs₂ : s₂.Closed)
    (hbelow : ∀ st ∈ pre ++ [.handling h],
      Below s₁.cells.length st.cells ∧ Below s₂.cells.length st.cells)
    (hagree : s₁.Agree k (pre ++ [.handling h]) s₂)
    (hbehind₁ : ∀ next t₁, (Builder.buildValue ⟨p₁, k, post₁⟩ (.object .appFunc)).exec s₁ =
      (.ok next, t₁) → s₁.Agree k (pre ++ [.handling h]) t₁)
    (hbehind₂ : ∀ next t₂, (Builder.buildValue ⟨p₂, k, post₂⟩ (.object .appFunc)).exec s₂ =
      (.ok next, t₂) → s₂.Agree k (pre ++ [.handling h]) t₂) (t : Convention) :
    (∀ v₁ s₁' v₂ s₂',
      (Builder.buildValue ⟨p₁, k, pre ++ .handling h :: post₁⟩ t).exec s₁ = (.ok v₁, s₁') →
      (Builder.buildValue ⟨p₂, k, pre ++ .handling h :: post₂⟩ t).exec s₂ = (.ok v₂, s₂') →
      ∀ form a₁, v₁.content? = some (.app form a₁) → ∃ a₂, v₂.content? = some (.app form a₂) ∧
        ∀ depth e, a₂.run s₂'.heldApp depth e = a₁.run s₁'.heldApp depth e) ∧
    ∀ p post s, let b : Builder := ⟨p, k, pre ++ .handling h :: post⟩
      (∀ v s', (b.buildValue t).exec s = (.ok v, s') → ∃ deeds s'',
        Deeds k (b.terminal s) s deeds v s'' ∧ s''.SameBut s' ∧
        deeds.filterMap (fun d => d.move.stage?) =
          post.reverse ++ .handling h :: pre.reverse) ∧
      ∀ e s', (Builder.buildValue ⟨p, k, post⟩ (.object .appFunc)).exec s = (.error e, s') →
        (b.buildValue t).exec s = (.error e, s') := by
  refine ⟨fun v₁ s₁' v₂ s₂' hbuild₁ hbuild₂ form a₁ hv₁ => ?_,
    fun p post s => ⟨fun v s' hbuild => ?_,
    fun e s' hbehind => buildValue_of_behind_error hbehind⟩⟩
  · obtain ⟨next₁, t₁, u₁, w₁, hnext₁, hsame₁, hrest₁, hend₁⟩ :=
      exists_of_buildValue_handling hbuild₁
    obtain ⟨next₂, t₂, u₂, w₂, hnext₂, hsame₂, hrest₂, hend₂⟩ :=
      exists_of_buildValue_handling hbuild₂
    have hfirst := (hbehind₁ next₁ t₁ hnext₁).trans (.of_sameBut hsame₁)
    have hsecond := (hbehind₂ next₂ t₂ hnext₂).trans (.of_sameBut hsame₂)
    have hlt : ∀ c ∈ {c | u₁.LeadsTo k (pre ++ [.handling h]) c},
        c < u₁.cells.length ∧ c < u₂.cells.length := by
      -- what the stages lead to was there before the builds
      intro c hc
      have hc₁ := State.LeadsTo.of_agree hfirst.symm hc
      have hlt₁ := hc₁.lt_length hs₁ fun st hst => (hbelow st hst).1
      have hlt₂ := (hc₁.of_agree hagree).lt_length hs₂ fun st hst => (hbelow st hst).2
      exact ⟨hlt₁.trans_le (length_cells_le_of_buildValue hnext₁ hsame₁),
        hlt₂.trans_le (length_cells_le_of_buildValue hnext₂ hsame₂)⟩
    rw [hend₁.heldApp_eq, hend₂.heldApp_eq]
    exact exists_app_of_agree (hfirst.symm.trans (hagree.trans hsecond)) hlt hrest₁ hrest₂ hv₁
  · obtain ⟨deeds, s'', hdeeds, hmoves, hsame⟩ := exists_deeds_of_buildValue hbuild
    refine ⟨deeds, s'', hdeeds, hsame, (filterMap_stage?_of_moves hmoves).trans ?_⟩
    simp

/-- A component behind the handler moves the number of the component that is made in front of it,
and the component that all builds share is told apps that differ in this number. -/
theorem handler_cuts_with_new_component :
    let h : App := .leaf ⟨"h", none⟩
    let other : Value := .bound (.app .func (.leaf ⟨"other", none⟩))
    let b₁ : Builder := ⟨0, 0, [.wired "i" 0, .constructing "k", .handling h, .constructing "j"]⟩
    let b₂ : Builder := ⟨0, 0, [.wired "i" 0, .constructing "k", .handling h]⟩
    let s₁ := State.fresh 1
    let s₂ := (Command.setProperty b₂ defaultAppKey other).exec s₁
    ∃ a₁ s₁' a₂ s₂', b₁.buildApp.exec s₁ = (.ok a₁, s₁') ∧ b₂.buildApp.exec s₂ = (.ok a₂, s₂') ∧
      s₁'.cells.length = 3 ∧ s₂'.cells.length = 2 ∧
      ∀ depth e, a₂.run s₂'.heldApp depth e = a₁.run s₁'.heldApp depth e := by
  intro h other b₁ b₂ s₁ s₂
  let common : List Stage := [.wired "i" 0, .constructing "k"] ++ [.handling h]
  let t : Convention := .object .appFunc
  have hs₁ : s₁.Closed := .fresh 1
  have hs₂ : s₂.Closed := hs₁.updateBag 0 fun g hg => hg.insert defaultAppKey (.nil _)
  have hcommon : ∀ st ∈ common, Below 1 st.cells := by
    change ∀ st ∈ common, ∀ c ∈ st.cells, c < 1
    decide
  have hbehind {s : State} (hs : s.Closed) (hbelow : ∀ st ∈ common, Below s.cells.length st.cells)
      (post : List Stage) (htold : ((Builder.buildValue ⟨0, 0, post⟩ t).exec s).2.told = s.told)
      (hquiet : ((Builder.buildValue ⟨0, 0, post⟩ t).exec s).2.registrations = s.registrations)
      (next : Value) (s' : State)
      (hnext : (Builder.buildValue ⟨0, 0, post⟩ t).exec s = (.ok next, s')) :
      s.Agree 0 common s' := by
    have hagree := State.agree_of_quiet (b := ⟨0, 0, post⟩) (t := t) hs hbelow (.of_eq htold) hquiet
    rwa [hnext] at hagree
  have hbuilt {b : Builder} {s : State} (hok : (b.buildApp.exec s).1.isOk) :
      ∃ a, b.buildApp.exec s = (.ok a, (b.buildApp.exec s).2) := by
    cases hresult : (b.buildApp.exec s).1 with
    | error e => simp [hresult, Except.isOk, Except.toBool] at hok
    | ok a => exact ⟨a, Prod.ext hresult rfl⟩
  obtain ⟨a₁, hbuild₁⟩ := hbuilt (b := b₁) (s := s₁) (by decide +kernel)
  obtain ⟨a₂, hbuild₂⟩ := hbuilt (b := b₂) (s := s₂) (by decide +kernel)
  obtain ⟨v₁, hvalue₁, hv₁⟩ := exists_buildValue_of_buildApp hbuild₁
  obtain ⟨v₂, hvalue₂, hv₂⟩ := exists_buildValue_of_buildApp hbuild₂
  obtain ⟨hruns, -⟩ := handler_cuts hs₁ hs₂ (fun st hst => ⟨hcommon st hst, hcommon st hst⟩)
    (⟨rfl, Iff.rfl, fun _ _ => rfl⟩ : s₁.Agree 0 common s₂)
    (hbehind hs₁ hcommon [.constructing "j"] (by decide +kernel) (by decide +kernel))
    (hbehind hs₂ hcommon [] (by decide +kernel) (by decide +kernel))
    (.ofShape .appFunc)
  obtain ⟨a, ha, hrun⟩ := hruns v₁ _ v₂ _ hvalue₁ hvalue₂ .func a₁ hv₁
  obtain rfl : a = a₂ := (Content.app.inj (Option.some.inj (ha.symm.trans hv₂))).2
  exact ⟨a₁, _, a, _, hbuild₁, hbuild₂, by decide +kernel, by decide +kernel, hrun⟩

end Builder

end Pipework
