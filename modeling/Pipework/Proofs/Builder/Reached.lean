import Pipework.Proofs.Conversion.History
import Pipework.Proofs.Engine.Closed

set_option autoImplicit false

/-!
# What a program can come to

A program starts with nothing. It makes builders, writes down values, adds stages and carries out
commands, always with values that it has come to before. However it goes on, its states and the
stages of its builders lead only to components that are there.

## Main definitions

* `Command.cells` — the cells that the values of a command lead to.
* `Reached` — the states and builders that a program can come to.

## Main results

* `Stage.cells_resolve` — a stage leads where the value leads that describes it.
* `Command.closed` — one command.
* `Reached.closed` — whole programs.
-/

namespace Pipework

/-! ## Stages -/

namespace Stage

variable {v : Value} {args : Args} {st : Stage}

/-- The callable that a value is or stands for leads where the value leads. -/
lemma cells_of_actsAs {r : Routine} (h : v.ActsAs r) : ∀ c ∈ r.cells, c ∈ v.cells := by
  cases h with
  | itself => exact fun _ => id
  | @component i _ h =>
    cases i with
    | crafted cls label ops callable cell =>
      cases h
      exact fun c hc => List.mem_cons_of_mem _ hc
    | mount path branch next => cases h

/-- An operation by which a component takes part leads where the component leads. -/
lemma cells_of_serves {i : Instance} {name : String} {next : Shape} {r : Routine}
    (h : i.Serves name args next r) : ∀ c ∈ r.cells, c ∈ i.cells :=
  Instance.cells_operation (mem_operations_of_serves h)

/-- What makes the wrapped app leads where the value leads that describes the stage, and the extra
arguments are those of the stage. -/
lemma cells_resolve (h : resolve v args = .ok st) :
    (∀ c ∈ st.factory.cells, c ∈ v.cells) ∧ st.args = args := by
  refine ⟨?_, args_of_resolve h⟩
  cases describes_of_resolve h with
  | callable hacts htakes => exact cells_of_actsAs hacts
  | told hv hcallable hserves =>
    subst hv
    exact fun c hc => (List.mem_append.1 hc).elim (cells_of_serves hserves c) id
  | invoke hv hcallable htold hserves =>
    subst hv
    exact cells_of_serves hserves
  | construct hv hbuilds => exact nofun

end Stage

/-! ## Commands -/

/-- The cells that the values of a command lead to. -/
def Command.cells : Command → List CellId
  | .register _ v => v.cells
  | .callRegister _ v => v.cells
  | .registerByBag _ v => v.cells
  | .setProperty _ _ v => v.cells
  | .removeProperty _ _ => []
  | .useStage _ v args => v.cells ++ args.cells
  | .invoke v args => v.cells ++ args.cells
  | .convert _ v _ => v.cells
  | .build b _ => b.stages.flatMap Stage.cells

/-- A command with values that lead only to what is there leaves no loose ends. -/
lemma Command.closed {s : State} (hs : s.Closed) {c : Command} (hc : Below s.cells.length c.cells) :
    (c.exec s).Closed ∧ s.cells.length ≤ (c.exec s).cells.length := by
  have keeps {α : Type} {x : Assembly α} {out : α → List CellId} (hx : x.Keeps s.cells.length out) :
      (x.exec s).2.Closed ∧ s.cells.length ≤ (x.exec s).2.cells.length :=
    ⟨(hx s hs le_rfl).1, (hx s hs le_rfl).2.1⟩
  cases c with
  | register b v =>
    rw [exec]
    exact keeps (.register b.conversions hc)
  | callRegister k v =>
    have hv : Below s.cells.length v.cells := hc
    have hargs : Below s.cells.length (Args.cells [v]) := by simpa [Args.cells] using hv
    rw [exec]
    exact keeps (Routine.keeps_invoke (r := .register k) (.nil _) hargs)
  | registerByBag b v =>
    have hkeeps : (Session.registerByBag b.properties v).Keeps s.cells.length nowhere := by
      refine .get_bind fun s₁ _ hle => ?_
      dsimp only
      split
      · next g _ => exact .seq (.register g (hc.mono hle)) fun _ => .pure (.nil _)
      · exact .pure (.nil _)
    rw [exec]
    exact keeps hkeeps
  | setProperty b key v =>
    exact ⟨hs.updateBag b.properties fun g hg => hg.insert key hc, le_rfl⟩
  | removeProperty b key =>
    exact ⟨hs.updateBag b.properties fun g hg => hg.erase key, le_rfl⟩
  | useStage b v args =>
    rw [exec]
    cases hst : Stage.resolve v args with
    | ok st =>
      rw [b.exec_useStage_ok hst]
      exact ⟨hs.congr rfl rfl rfl rfl, le_rfl⟩
    | error e =>
      rw [b.exec_useStage_error hst]
      exact ⟨hs, le_rfl⟩
  | invoke v args =>
    obtain ⟨hv, hargs⟩ := Below.append_iff.1 hc
    rw [exec, Value.invoke]
    cases hr : v.routine? with
    | none => exact ⟨hs, le_rfl⟩
    | some r => exact keeps (Routine.keeps_invoke (Value.cells_routine? hr ▸ hv) hargs)
  | convert b v t =>
    rw [exec]
    exact keeps (keeps_convertIn b.conversions hc t)
  | build b t =>
    rw [exec]
    exact keeps (b.keeps_buildValue (Below.flatMap_iff.1 hc) t)

/-! ## Programs -/

/-- The states that a program can come to, with the builders that it has then. The values that it
uses lead only to what is there. -/
inductive Reached : State → List Builder → Prop
  | start : Reached .initial []
  | make {s : State} {bs : List Builder} (h : Reached s bs) :
      Reached (Builder.make.exec s).2 ((Builder.make.exec s).1 :: bs)
  | branch {s : State} {bs : List Builder} (h : Reached s bs) {b : Builder} (hb : b ∈ bs) :
      Reached s (b.branch :: bs)
  | eval {s : State} {bs : List Builder} (h : Reached s bs) (e : Expr) :
      Reached (e.eval.exec s).2 bs
  | assign {s : State} {bs : List Builder} (h : Reached s bs) (name : String) {v : Value}
      (hv : Below s.cells.length v.cells) : Reached { s with vars := s.vars.insert name v } bs
  | stage {s s' : State} {bs : List Builder} (h : Reached s bs) {b b' : Builder} (hb : b ∈ bs)
      {v : Value} {args : Args} (hv : Below s.cells.length (v.cells ++ args.cells))
      (hstage : (b.useStage v args).exec s = (.ok b', s')) : Reached s' (b' :: bs)
  | command {s : State} {bs : List Builder} (h : Reached s bs) {c : Command}
      (hc : Below s.cells.length c.cells) : Reached (c.exec s) bs

/-- The stages of some builders lead only to what is there. -/
def StagesBelow (n : Nat) (bs : List Builder) : Prop :=
  ∀ b ∈ bs, ∀ st ∈ b.stages, Below n st.cells

/-- Stages lead to what is there also when more is there. -/
lemma StagesBelow.mono {n m : Nat} {bs : List Builder} (h : StagesBelow n bs) (hnm : n ≤ m) :
    StagesBelow m bs := fun b hb st hst => (h b hb st hst).mono hnm

/-- The first state leads nowhere. -/
lemma State.Closed.initial : State.initial.Closed where
  bag _ := .empty _
  registry _ := .empty _
  vars name v hv := by cases hv
  held _ := .nil _

/-- The bag and the registry of a new builder lead nowhere. -/
lemma State.Closed.make {s : State} (hs : s.Closed) : (Builder.make.exec s).2.Closed where
  bag p := by
    let g := Builder.seededBag s.registries.length
    change Bag.Closed s.cells.length ((s.bags ++ [g])[p]?.getD .empty)
    obtain hlt | rfl | hgt := Nat.lt_trichotomy p s.bags.length
    · rw [List.getElem?_append_left hlt]
      exact hs.bag p
    · rw [List.getElem?_concat_length]
      exact .seeded _ _
    · rw [List.getElem?_eq_none (by rw [List.length_append, List.length_singleton]; omega)]
      exact .empty _
  registry r := by
    change Registry.Closed s.cells.length ((s.registries ++ [.builtin])[r]?.getD .empty)
    obtain hlt | rfl | hgt := Nat.lt_trichotomy r s.registries.length
    · rw [List.getElem?_append_left hlt]
      exact hs.registry r
    · rw [List.getElem?_concat_length]
      exact .builtin _
    · rw [List.getElem?_eq_none (by rw [List.length_append, List.length_singleton]; omega)]
      exact .empty _
  vars := hs.vars
  held := hs.held

/-- **States and builders have no loose ends.** Whatever a program does, its states and the stages
of its builders lead only to what is there.

**Proof sketch.** Induction on the program, one case for each thing that it can do. -/
theorem Reached.closed {s : State} {bs : List Builder} (h : Reached s bs) :
    s.Closed ∧ StagesBelow s.cells.length bs := by
  have hnone (n : Nat) : ∀ st ∈ ([] : List Stage), Below n st.cells :=
    fun _ h => absurd h List.not_mem_nil
  induction h with
  | start => exact ⟨.initial, fun _ h => absurd h List.not_mem_nil⟩
  | make h ih => exact ⟨ih.1.make, List.forall_mem_cons.2 ⟨hnone _, ih.2⟩⟩
  | branch h hb ih => exact ⟨ih.1, List.forall_mem_cons.2 ⟨hnone _, ih.2⟩⟩
  | eval h e ih =>
    obtain ⟨hs, hle, -⟩ := e.keeps_eval _ ih.1 le_rfl
    exact ⟨hs, ih.2.mono hle⟩
  | assign h name hv ih =>
    refine ⟨⟨ih.1.bag, ih.1.registry, fun k u hu => ?_, ih.1.held⟩, ih.2⟩
    rw [OrderedMap.get?_insert] at hu
    split at hu
    · cases hu
      exact hv
    · exact ih.1.vars k u hu
  | @stage s s' bs h b b' hb v args hv hstage ih =>
    cases hst : Stage.resolve v args with
    | error e =>
      rw [b.exec_useStage_error hst] at hstage
      cases hstage
    | ok st =>
      rw [b.exec_useStage_ok hst] at hstage
      cases hstage
      obtain ⟨hfactory, hargs⟩ := Stage.cells_resolve hst
      refine ⟨ih.1.congr rfl rfl rfl rfl, List.forall_mem_cons.2 ⟨fun st' hst' => ?_, ih.2⟩⟩
      obtain hold | hnew := List.mem_append.1 hst'
      · exact ih.2 b hb st' hold
      · obtain rfl := List.mem_singleton.1 hnew
        obtain ⟨hvalue, hrest⟩ := Below.append_iff.1 hv
        exact Below.append_iff.2 ⟨fun c hc => hvalue c (hfactory c hc), hargs ▸ hrest⟩
  | command h hc ih =>
    obtain ⟨hs, hle⟩ := Command.closed ih.1 hc
    exact ⟨hs, ih.2.mono hle⟩

end Pipework
