import Pipework.Proofs.Engine.Frame
import Pipework.Proofs.Stage.Output

set_option autoImplicit false

/-!
# The moves of a build

A build makes moves one after the other: for every stage, from the last one to the first, it brings
the app to the convention of the stage, calls what the stage has chosen, and brings the outcome to
the convention again; at the end it brings the app to the target. It stops at the first move that
fails. The terminal app is looked up once, before the first move, and everything else that a move
looks at is what the moves before it have left.

## Main definitions

* `Move`, `Builder.moves` — the moves of a build, in order.
* `Deed`, `Deeds` — moves that were made one after the other.

## Main results

* `Engine.Composed.core_congr` — a composition of operations does the same whatever the bags hold.
* `exists_deeds` — a sequence of moves comes to its end, or to a first move that fails.
* `Builder.buildValue_makes_moves` — the order of a build, and what its moves see of one another.
-/

namespace Pipework

/-! ## Property bags -/

/-- What a composition of operations does is independent of the property bags. -/
lemma Engine.Composed.core_congr {α : Type} {touched : Set CellId} {x : Engine α}
    (h : x.Composed touched) {s s' : State} (hs : s.core = s'.core) :
    (x.exec s).1 = (x.exec s').1 ∧ (x.exec s).2.core = (x.exec s').2.core := by
  -- an operation does to the core what it does to the state
  have hop {α : Type} {x : Engine α} {s s' : State} (hs : s.core = s'.core)
      (hx : ∀ s, x.exec s.core = ((x.exec s).1, (x.exec s).2.core)) :
      (x.exec s).1 = (x.exec s').1 ∧ (x.exec s).2.core = (x.exec s').2.core :=
    Prod.mk.inj ((hx s).symm.trans ((congrArg x.exec hs).trans (hx s')))
  induction h generalizing s s' with
  | pure a => exact ⟨rfl, hs⟩
  | bind hx hf ihx ihf =>
    obtain ⟨hfst, hcore⟩ := ihx hs
    rw [Engine.exec_bind, Engine.exec_bind, hfst]
    exact ihf _ hcore
  | observe hf h ih =>
    rw [Engine.exec_bind, Engine.exec_bind, Engine.exec_get, Engine.exec_get, hf s s' hs]
    exact ih s' hs
  | setProperty p key v => exact ⟨rfl, hs⟩
  | logCall | raise | report | newCell | setCell | addConversion => exact hop hs fun _ => rfl

/-! ## Moves -/

/-- Calls what makes the wrapped app. -/
def Factory.call : Factory → Args → Assembly Value
  | .callable r, args => r.invoke args
  | .told r component, args => do
    discard (r.invoke args)
    pure component
  | .invoke r, args => r.invoke args
  | .construct t params, args => t.constructWith params args

/-- A stage is applied by calling what it has chosen with the next app and the extra arguments. -/
lemma Stage.apply_eq_call (st : Stage) (next : Value) :
    st.apply next = st.factory.call (next :: st.args) := by
  unfold apply Factory.call
  cases st.factory <;> rfl

/-- A move of a build. -/
inductive Move where
  /-- Brings the app to a convention. -/
  | bring (t : Convention)
  /-- Calls what a stage has chosen, with the app and the extra arguments of the stage. -/
  | call (st : Stage)

/-- What a move makes of the app, with the conversions of a registry. -/
def Move.run (k : RegistryId) : Move → Value → Assembly Value
  | .bring t, app => do
    let s ← get
    convert (s.registry k).edges app t
  | .call st, app => st.factory.call (app :: st.args)

/-- A move is composed of operations of the engine. -/
lemma Move.composed_run (k : RegistryId) (m : Move) (app : Value) :
    (m.run k app).Composed Set.univ := by
  cases m with
  | bring t => exact composed_convertIn k app t
  | call st =>
    rw [run, ← st.apply_eq_call]
    exact (st.composed_apply app).mono (Set.subset_univ _)

/-- Makes moves, up to the first one that fails. -/
def makeMoves (k : RegistryId) (moves : List Move) (app : Value) : Assembly Value :=
  moves.foldlM (fun app m => m.run k app) app

/-- Moves are made from the first one on. -/
lemma makeMoves_cons (k : RegistryId) (m : Move) (moves : List Move) (app : Value) :
    makeMoves k (m :: moves) app = m.run k app >>= makeMoves k moves := rfl

/-- Moves one after the other are composed of operations of the engine. -/
lemma composed_makeMoves (k : RegistryId) (moves : List Move) (app : Value) :
    (makeMoves k moves app).Composed Set.univ := by
  induction moves generalizing app with
  | nil => exact .pure _
  | cons m moves ih => exact (m.composed_run k app).bind ih

/-- The moves that put a stage around an app. -/
def Stage.moves (st : Stage) : List Move := [.bring st.convention, .call st, .bring st.convention]

namespace Builder

/-- The moves of a build. -/
def moves (b : Builder) (t : Convention) : List Move :=
  b.stages.reverse.flatMap Stage.moves ++ [.bring t]

/-- Reports that an app has been built. -/
def announce (b : Builder) (t : Convention) (app : Value) : Assembly Value := do
  Engine.report (.built b.stages.length t)
  Engine.raise (.build t.kind) 1
  Engine.raise (.buildDuration t.kind) 1
  Engine.raise .buildStages 1
  Engine.raise .stagesBuilt b.stages.length
  pure app

/-- Announcing what has been built is composed of operations of the engine. -/
lemma composed_announce (b : Builder) (t : Convention) (app : Value) :
    (b.announce t app).Composed Set.univ := composed_reportBuilt b.stages.length t app

section Outcomes

variable {b : Builder} {t : Convention} {s s₁ s₂ : State} {app : Value} {e : BuildError}

/-- A build fails when a stage cannot be put around the app. -/
lemma exec_buildValue_of_fold_error
    (hfold : (fold b.conversions b.stages.reverse (b.terminal s)).exec s = (.error e, s₁)) :
    (b.buildValue t).exec s = (.error e, s₁) := by
  rw [buildValue, Assembly.exec_get_bind, Assembly.exec_bind_error hfold]

variable (hfold : (fold b.conversions b.stages.reverse (b.terminal s)).exec s = (.ok app, s₁))
include hfold

/-- A build fails when what the stages leave does not come to the target. -/
lemma exec_buildValue_of_convert_error
    (hconvert : (convertIn b.conversions app t).exec s₁ = (.error e, s₂)) :
    (b.buildValue t).exec s = (.error e, s₂) := by
  rw [buildValue, Assembly.exec_get_bind, Assembly.exec_bind_ok hfold,
    Assembly.exec_bind_error hconvert]

/-- A build reports what the stages leave once that has come to the target. -/
lemma exec_buildValue_of_convert_ok {out : Value}
    (hconvert : (convertIn b.conversions app t).exec s₁ = (.ok out, s₂)) :
    (b.buildValue t).exec s = (b.announce t out).exec s₂ := by
  rw [buildValue, Assembly.exec_get_bind, Assembly.exec_bind_ok hfold,
    Assembly.exec_bind_ok hconvert]
  rfl

end Outcomes

/-- Putting stages around an app is making their moves. -/
lemma fold_eq_makeMoves (k : RegistryId) (stages : List Stage) (app : Value) :
    fold k stages app = makeMoves k (stages.flatMap Stage.moves) app := by
  induction stages generalizing app with
  | nil => rfl
  | cons st stages ih =>
    have hfold : fold k (st :: stages) app = (do
        let next ← convertIn k app st.convention
        let made ← st.factory.call (next :: st.args)
        let app ← convertIn k made st.convention
        fold k stages app) := by
      simp only [fold, st.apply_eq_call]
    rw [hfold]
    simp only [ih]
    rfl

/-- A build looks up the terminal app, makes its moves and reports. -/
lemma buildValue_eq_makeMoves (b : Builder) (t : Convention) :
    b.buildValue t = (do
      let s ← get
      let app ← makeMoves b.conversions (b.moves t) (b.terminal s)
      b.announce t app) := by
  refine bind_congr fun s => ?_
  rw [moves, makeMoves, List.foldlM_append, bind_assoc]
  simp only [fold_eq_makeMoves]
  refine bind_congr fun app => ?_
  simp only [List.foldlM_cons, List.foldlM_nil, bind_pure]
  rfl

end Builder

/-! ## Moves that were made -/

/-- A move that was made: what it started with, and what it ended with. -/
structure Deed where
  move : Move
  input : Value
  before : State
  output : Value
  after : State

/-- During a move the registries change by registrations only. -/
lemma Deed.exists_registers {k : RegistryId} {d : Deed}
    (h : (d.move.run k d.input).exec d.before = (.ok d.output, d.after)) :
    ∃ l, State.Registers l d.before d.after := by
  have hframe := (d.move.composed_run k d.input).frames d.before
  rw [h] at hframe
  exact hframe.exists_registers

/-- Moves that were made one after the other, each with what the one before it has left. -/
inductive Deeds (k : RegistryId) : Value → State → List Deed → Value → State → Prop
  | nil (app : Value) (s : State) : Deeds k app s [] app s
  | cons {d : Deed} {ds : List Deed} {app : Value} {s : State}
      (h : (d.move.run k d.input).exec d.before = (.ok d.output, d.after))
      (rest : Deeds k d.output d.after ds app s) : Deeds k d.input d.before (d :: ds) app s

namespace Deeds

variable {k : RegistryId} {app app' : Value} {s s' : State}

/-- In the middle of some moves. -/
lemma split {pre post : List Deed} (h : Deeds k app s (pre ++ post) app' s') :
    ∃ u s₁, Deeds k app s pre u s₁ ∧ Deeds k u s₁ post app' s' := by
  induction pre generalizing app s with
  | nil => exact ⟨app, s, .nil _ _, h⟩
  | cons d pre ih =>
    cases h with
    | cons hd rest =>
      obtain ⟨u, s₁, hpre, hpost⟩ := ih rest
      exact ⟨u, s₁, .cons hd hpre, hpost⟩

/-- What is left to do when some of the moves have been made. -/
lemma exec_makeMoves {ds : List Deed} (h : Deeds k app s ds app' s') (rest : List Move) :
    (makeMoves k (ds.map Deed.move ++ rest) app).exec s = (makeMoves k rest app').exec s' := by
  induction h with
  | nil => rfl
  | cons hd _ ih =>
    rw [List.map_cons, List.cons_append, makeMoves_cons, Assembly.exec_bind_ok hd]
    exact ih

/-- Moves lead from a start to one end only. -/
lemma unique {ds : List Deed} {u : Value} {s₁ : State} (h : Deeds k app s ds app' s')
    (h' : Deeds k app s ds u s₁) : u = app' ∧ s₁ = s' := by
  have hends := (h'.exec_makeMoves []).symm.trans (h.exec_makeMoves [])
  simpa [makeMoves] using hends

/-- Between any two moves the registries change by registrations only. -/
lemma exists_registers {ds : List Deed} (h : Deeds k app s ds app' s') :
    ∀ τ ∈ ds.map Deed.before ++ [s'], ∃ l, State.Registers l s τ := by
  induction h with
  | nil => simpa using ⟨_, .refl _⟩
  | @cons d ds app s' hd _ ih =>
    intro τ hτ
    rw [List.map_cons, List.cons_append, List.mem_cons] at hτ
    obtain rfl | hτ := hτ
    · exact ⟨_, .refl _⟩
    · obtain ⟨l, hl⟩ := Deed.exists_registers hd
      obtain ⟨l', hl'⟩ := ih τ hτ
      exact ⟨l ++ l', hl.trans hl'⟩

end Deeds

/-- A sequence of moves comes to its end, or to a first move that fails. -/
lemma exists_deeds (k : RegistryId) (moves : List Move) (app : Value) (s : State) :
    ∃ done rest app' s', moves = done.map Deed.move ++ rest ∧ Deeds k app s done app' s' ∧
      (rest = [] ∨ ∃ m rest' e s'', rest = m :: rest' ∧
        (m.run k app').exec s' = (.error e, s'')) := by
  induction moves generalizing app s with
  | nil => exact ⟨[], [], app, s, rfl, .nil _ _, .inl rfl⟩
  | cons m moves ih =>
    rcases h : (m.run k app).exec s with ⟨e | out, s₁⟩
    · exact ⟨[], m :: moves, app, s, rfl, .nil _ _, .inr ⟨m, moves, e, s₁, rfl, h⟩⟩
    · obtain ⟨done, rest, app', s', hmoves, hdone, hend⟩ := ih out s₁
      have hdeeds := Deeds.cons (d := ⟨m, app, s, out, s₁⟩) h hdone
      exact ⟨_ :: done, rest, app', s', by rw [hmoves]; rfl, hdeeds, hend⟩

/-! ## Builds -/

namespace Builder

/-- **The order of a build.** A build starts with the terminal app that the bag holds when the call
starts, and makes its moves in order, the last stage first. Either it makes all of them and gives
what the last one has left, or a move fails, and then the build fails in the same way and makes none
of the moves behind that one. Moreover:

* Every move has its own look at the state. What is registered during a move is among the edges in
  all later moves, unless something else has been registered between the same types.
* What a move brings to a convention has its handle.
* The bag is not looked at again: whatever may happen to the bags between two moves, the outcome of
  the build is the same.

**Proof sketch.** The moves are made up to the first one that fails (`exists_deeds`). A move is a
composition of operations: it changes registries by registrations only
(`Engine.Composed.frames`), and depends on no bag (`Engine.Composed.core_congr`). -/
theorem buildValue_makes_moves (b : Builder) (t : Convention) (s : State) :
    let terminal := ((s.bag b.properties).get? defaultAppKey).getD notFoundValue
    ∃ done rest app s', b.moves t = done.map Deed.move ++ rest ∧
      Deeds b.conversions terminal s done app s' ∧
      ((rest = [] ∧ (b.buildValue t).exec s = (.ok app, ((b.announce t app).exec s').2)) ∨
        ∃ m rest' e s'', rest = m :: rest' ∧ (m.run b.conversions app).exec s' = (.error e, s'') ∧
          (b.buildValue t).exec s = (.error e, s'')) ∧
      (∀ pre d post, done = pre ++ d :: post → ∃ l, State.Registers l d.before d.after ∧
        ∀ τ ∈ post.map Deed.before ++ [s'], ∃ l', State.Registers l' d.after τ ∧
          (b.conversions < s.registries.length → ∀ c ∈ Registration.inRegistry b.conversions l,
            ∃ e ∈ (τ.registry b.conversions).edges,
              Conversion.last? (Registration.inRegistry b.conversions (l ++ l')) c.key = some e)) ∧
      ((s.registry b.conversions).Filled →
        ∀ d ∈ done, ∀ u, d.move = .bring u → d.output.shape = u.handle) ∧
      ∀ pre post u s₁, done = pre ++ post → Deeds b.conversions terminal s pre u s₁ →
        ∀ s₂, s₂.core = s₁.core →
          let resumed :=
            (makeMoves b.conversions (post.map Deed.move ++ rest) u >>= b.announce t).exec s₂
          resumed.1 = ((b.buildValue t).exec s).1 ∧
            resumed.2.core = ((b.buildValue t).exec s).2.core := by
  intro terminal
  obtain ⟨done, rest, app, s', hmoves, hdone, hend⟩ :=
    exists_deeds b.conversions (b.moves t) terminal s
  have hbuild : (b.buildValue t).exec s =
      (makeMoves b.conversions (b.moves t) terminal >>= b.announce t).exec s := by
    rw [buildValue_eq_makeMoves, Assembly.exec_get_bind]
    rfl
  refine ⟨done, rest, app, s', hmoves, hdone, ?_, ?_, ?_, ?_⟩
  · have hmade := hdone.exec_makeMoves rest
    rw [← hmoves] at hmade
    obtain rfl | ⟨m, rest', e, s'', rfl, hfails⟩ := hend
    · refine .inl ⟨rfl, ?_⟩
      rw [hbuild, Assembly.exec_bind_ok hmade]
      rfl
    · refine .inr ⟨m, rest', e, s'', rfl, hfails, ?_⟩
      rw [makeMoves_cons, Assembly.exec_bind_error hfails] at hmade
      rw [hbuild, Assembly.exec_bind_error hmade]
  · rintro pre d post rfl
    obtain ⟨_, _, hpre, hrest⟩ := hdone.split
    cases hrest with
    | cons hd hpost =>
      obtain ⟨l₀, hl₀⟩ := hpre.exists_registers d.before (by simp)
      obtain ⟨l, hl⟩ := Deed.exists_registers hd
      refine ⟨l, hl, fun τ hτ => ?_⟩
      obtain ⟨l', hl'⟩ := hpost.exists_registers τ hτ
      exact ⟨l', hl', fun hk c hc => hl.exists_edge hl' (hl₀.length_registries ▸ hk) hc⟩
  · intro hfilled d hd u hu
    obtain ⟨pre, post, rfl⟩ := List.append_of_mem hd
    obtain ⟨_, _, hpre, hrest⟩ := hdone.split
    cases hrest with
    | cons hd _ =>
      obtain ⟨l₀, hl₀⟩ := hpre.exists_registers d.before (by simp)
      rw [hu, Move.run, Assembly.exec_get_bind] at hd
      exact shape_of_convert (hl₀.filled hfilled).sound hd
  · rintro pre post u s₁ rfl hpre s₂ hs₂
    obtain ⟨u', s₁', hpre', hpost⟩ := hdone.split
    obtain ⟨rfl, rfl⟩ := hpre.unique hpre'
    have hresumed : (makeMoves b.conversions (b.moves t) terminal >>= b.announce t).exec s =
        (makeMoves b.conversions (post.map Deed.move ++ rest) u' >>= b.announce t).exec s₁' := by
      rw [Assembly.exec_bind, Assembly.exec_bind, hmoves, List.map_append, List.append_assoc,
        hpre.exec_makeMoves]
    have hcomposed := (composed_makeMoves b.conversions (post.map Deed.move ++ rest) u').bind
      (b.composed_announce t)
    rw [hbuild, hresumed]
    exact hcomposed.core_congr hs₂

/-- A function whose outcome comes to its convention only by the conversion that it registers while
it runs, and that puts another app in the place of the terminal app. -/
def registering : Stage where
  convention := .object .appFunc
  factory := .callable (.func (.mk [.appFunc] (.app .legacy) "f" none
    [.mk [.legacy] (.app .func) "g" none [] []]
    [(defaultAppKey, .app .func ⟨"later", none⟩ false)]) none)
  args := []
  kind := .callableFactory
  description := "callable fn(AppFunc) -> Legacy"

example : ((⟨0, 0, [registering]⟩ : Builder).buildApp.exec (State.fresh 0)).1 =
    .ok (.over ⟨"g(Legacy)", none⟩ (.delegate (.over ⟨"f(AppFunc)", none⟩ .notFound))) := rfl

end Builder

end Pipework
