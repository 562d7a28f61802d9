import Pipework.Proofs.Engine.Closed
import Pipework.Proofs.Value.Renumber

set_option autoImplicit false

/-!
# Two runs side by side

The same calls in two states have the same outcome when the states hold the same in the cells that
matter, although the cells may have other numbers, and although the states differ in everything
else: in their bags and variables, in other cells, and in what has been reported. Every cell that is
made on the way is made in both states, and matters from then on.

## Main definitions

* `Renumbering` — other numbers for the cells that matter.
* `State.Mirrors` — two states that hold the same, up to the numbers.
* `Engine.Mirrored`, `Assembly.Mirrored` — computations with outcomes that are the same, up to the
  numbers.

## Main results

* `Engine.Mirrored.newCell`, `Engine.Mirrored.setCell` — making and changing components.
* `Value.mirrored_render` — the texts of values.
* `Routine.mirrored_invoke` — calls.
-/

namespace Pipework

/-! ## Numbers -/

/-- Other numbers for the cells of a domain, no two of which get the same one. -/
structure Renumbering where
  map : CellId → CellId
  dom : Set CellId
  inj : ∀ c ∈ dom, ∀ d ∈ dom, map c = map d → c = d

namespace Renumbering

variable (ν : Renumbering)

/-- Cells of the domain. -/
def Covers (cells : List CellId) : Prop := ∀ c ∈ cells, c ∈ ν.dom

variable {ν} {l l' : List CellId}

/-- No cells are covered. -/
lemma Covers.nil : ν.Covers [] := nofun

/-- Cells of two lists are covered exactly if those of both are. -/
lemma covers_append : ν.Covers (l ++ l') ↔ ν.Covers l ∧ ν.Covers l' := List.forall_mem_append

variable (ν)

/-- The cell `c'` is `c` with another number. -/
def Cells (c c' : CellId) : Prop := c' = ν.map c ∧ c ∈ ν.dom

/-- The content `c'` is `c` with other numbers, and leads to the domain only. -/
def Contents (c c' : Content) : Prop := c' = c.renumber ν.map ∧ ν.Covers c.cells

/-- The component `i'` is `i` with other numbers, and leads to the domain only. -/
def Instances (i i' : Instance) : Prop := i' = i.renumber ν.map ∧ ν.Covers i.cells

/-- The value `v'` is `v` with other numbers, and leads to the domain only. -/
def Values (v v' : Value) : Prop := v' = v.renumber ν.map ∧ ν.Covers v.cells

/-- The entries are the same with other numbers, and lead to the domain only. -/
def Entries (l l' : List Held) : Prop := l' = l.map (Held.renumber ν.map) ∧ ν.Covers (heldCells l)

/-- The ends of two ways of a value are the same with other numbers, and so are their lengths. -/
def Hops (x x' : Option (Value × Nat)) : Prop :=
  x' = x.map (fun h => (h.1.renumber ν.map, h.2)) ∧ ν.Covers (hopCells x)

end Renumbering

/-! ## States -/

/-- The state `s'` holds the same as `s` in the cells of the domain and in a registry, up to the
numbers, and new cells get numbers that stand for one another. -/
structure State.Mirrors (ν : Renumbering) (k : RegistryId) (s s' : State) : Prop where
  fresh : ∀ i, ν.Cells (s.cells.length + i) (s'.cells.length + i)
  entries : ∀ c ∈ ν.dom, ν.Entries (s.cell c) (s'.cell (ν.map c))
  registry : s'.registry k = (s.registry k).mapValues (Conversion.renumber ν.map)
  covered : ∀ c ∈ (s.registry k).edges, ν.Covers c.routine.cells
  there : k < s'.registries.length ↔ k < s.registries.length

namespace State.Mirrors

variable {ν : Renumbering} {k : RegistryId} {s s' : State}

/-- A step that changes neither cells nor registries. -/
lemma congr (h : s.Mirrors ν k s') {t t' : State} (hcells : t.cells = s.cells)
    (hcells' : t'.cells = s'.cells) (hregistry : t.registry k = s.registry k)
    (hregistry' : t'.registry k = s'.registry k)
    (hlength : t.registries.length = s.registries.length)
    (hlength' : t'.registries.length = s'.registries.length) : t.Mirrors ν k t' where
  fresh := by rw [hcells, hcells']; exact h.fresh
  entries := by
    simp only [State.cell, hcells, hcells']
    exact h.entries
  registry := by rw [hregistry, hregistry', h.registry]
  covered := by rw [hregistry]; exact h.covered
  there := by rw [hlength, hlength', h.there]

/-- The edges of the registry. -/
lemma edges (h : s.Mirrors ν k s') : (s'.registry k).edges =
    (s.registry k).edges.map (Conversion.renumber ν.map) := by
  rw [h.registry, Registry.edges, OrderedMap.values_mapValues]
  rfl

/-- Cells that stand for one another hold the same number function up to the numbers. -/
lemma heldNum (h : s.Mirrors ν k s') {c : CellId} (hc : c ∈ ν.dom) :
    s'.heldNum (ν.map c) = (s.heldNum c).map (Num.renumber ν.map) := by
  rw [State.heldNum, (h.entries c hc).1]
  exact findSome?_renumber Content.num?_renumber _

/-- Cells that stand for one another hold the same app up to the numbers. -/
lemma heldApp (h : s.Mirrors ν k s') {c : CellId} (hc : c ∈ ν.dom) :
    s'.heldApp (ν.map c) = (s.heldApp c).map (App.renumber ν.map) := by
  rw [State.heldApp, (h.entries c hc).1]
  exact findSome?_renumber Content.app?_renumber _

/-- Cells that stand for one another show the same text. -/
lemma cellText (h : s.Mirrors ν k s') {c : CellId} (hc : c ∈ ν.dom) :
    s'.cellText (ν.map c) = s.cellText c := by
  rw [State.cellText, (h.entries c hc).1, List.map_map]
  rfl

/-- A cell of the domain is there in one state if it is in the other. -/
lemma lt_length (h : s.Mirrors ν k s') {c : CellId} (hc : c ∈ ν.dom) :
    ν.map c < s'.cells.length ↔ c < s.cells.length := by
  constructor
  · intro hlt
    by_contra hge
    obtain ⟨i, rfl⟩ := Nat.exists_eq_add_of_le (not_lt.1 hge)
    rw [← (h.fresh i).1] at hlt
    exact absurd hlt (Nat.not_lt.2 (Nat.le_add_right _ _))
  · intro hlt
    by_contra hge
    obtain ⟨i, hi⟩ := Nat.exists_eq_add_of_le (not_lt.1 hge)
    obtain ⟨hmap, hdom⟩ := h.fresh i
    rw [ν.inj c hc _ hdom (hi.trans hmap)] at hlt
    exact absurd hlt (Nat.not_lt.2 (Nat.le_add_right _ _))

end State.Mirrors

/-! ## Computations -/

/-- From two states that hold the same up to the numbers, the computations have related results and
leave states that hold the same again. -/
def Engine.Mirrored (ν : Renumbering) (k : RegistryId) {α : Type} (R : α → α → Prop)
    (x x' : Engine α) : Prop :=
  ∀ s s', s.Mirrors ν k s' → R (x.exec s).1 (x'.exec s').1 ∧ (x.exec s).2.Mirrors ν k (x'.exec s').2

/-- Two outcomes that are related: two successes with related results, or the same failure. -/
inductive Outcomes {α : Type} (R : α → α → Prop) : (o o' : Except BuildError α) → Prop
  | ok {a a' : α} (h : R a a') : Outcomes R (.ok a) (.ok a')
  | error (e : BuildError) : Outcomes R (.error e) (.error e)

/-- The same for computations that may fail. -/
def Assembly.Mirrored (ν : Renumbering) (k : RegistryId) {α : Type} (R : α → α → Prop)
    (x x' : Assembly α) : Prop :=
  Engine.Mirrored ν k (Outcomes R) x.run x'.run

/-- Results that nothing is said about. -/
def Unrelated {α : Type} (_ _ : α) : Prop := True

variable {ν : Renumbering} {k : RegistryId} {α β : Type} {R : α → α → Prop} {S : β → β → Prop}

namespace Engine.Mirrored

/-- Results that are related. -/
lemma pure {a a' : α} (h : R a a') : Engine.Mirrored ν k R (Pure.pure a) (Pure.pure a') :=
  fun _ _ hs => ⟨h, hs⟩

/-- Sequences of which both parts have the same outcomes. -/
lemma bind {x x' : Engine α} {g g' : α → Engine β} (hx : Engine.Mirrored ν k R x x')
    (hg : ∀ a a', R a a' → Engine.Mirrored ν k S (g a) (g' a')) :
    Engine.Mirrored ν k S (x >>= g) (x' >>= g') := by
  intro s s' hs
  obtain ⟨hresult, hs₁⟩ := hx s s' hs
  exact hg _ _ hresult _ _ hs₁

/-- What goes on after a result that it does not depend on. -/
lemma seq {x x' : Engine α} {g g' : α → Engine β} (hx : Engine.Mirrored ν k R x x')
    (hg : ∀ a a', Engine.Mirrored ν k S (g a) (g' a')) :
    Engine.Mirrored ν k S (x >>= g) (x' >>= g') := hx.bind fun a a' _ => hg a a'

/-- What is found in the two states is the same up to the numbers. -/
lemma get_bind {g g' : State → Engine β}
    (hg : ∀ s s', s.Mirrors ν k s' → Engine.Mirrored ν k S (g s) (g' s')) :
    Engine.Mirrored ν k S (get >>= g) (get >>= g') := fun s s' hs => hg s s' hs s s' hs

/-- Steps one after the other. -/
lemma forM {g : α → Engine PUnit} {l : List α}
    (h : ∀ a ∈ l, Engine.Mirrored ν k Unrelated (g a) (g a)) :
    Engine.Mirrored ν k Unrelated (l.forM g) (l.forM g) := by
  induction l with
  | nil => exact pure trivial
  | cons a l ih =>
    exact (h a List.mem_cons_self).seq fun _ _ => ih fun b hb => h b (List.mem_cons_of_mem _ hb)

/-! ### Operations -/

/-- A step that changes neither registries nor cells. -/
lemma of_eq {x : Engine PUnit} (h : ∀ s, (x.exec s).2.registries = s.registries ∧
    (x.exec s).2.cells = s.cells) : Engine.Mirrored ν k Unrelated x x := by
  intro s s' hs
  obtain ⟨hregistries, hcells⟩ := h s
  obtain ⟨hregistries', hcells'⟩ := h s'
  refine ⟨trivial, hs.congr hcells hcells' ?_ ?_ ?_ ?_⟩ <;>
    simp only [State.registry, hregistries, hregistries']

/-- Writing to the call log. -/
lemma logCall (line : String) :
    Engine.Mirrored ν k Unrelated (Engine.logCall line) (Engine.logCall line) :=
  of_eq fun _ => ⟨rfl, rfl⟩

/-- Reports, which may differ. -/
lemma report (e e' : Event) : Engine.Mirrored ν k Unrelated (Engine.report e) (Engine.report e') :=
  fun _ _ hs => ⟨trivial, hs.congr rfl rfl rfl rfl rfl rfl⟩

/-- Counting, which may differ. -/
lemma raise (c c' : Counter) (n n' : Nat) :
    Engine.Mirrored ν k Unrelated (Engine.raise c n) (Engine.raise c' n') :=
  fun _ _ hs => ⟨trivial, hs.congr rfl rfl rfl rfl rfl rfl⟩

/-- New cells with the same entries get numbers that stand for one another. -/
lemma newCell {l l' : List Held} (h : ν.Entries l l') :
    Engine.Mirrored ν k ν.Cells (Engine.newCell l) (Engine.newCell l') := by
  intro s s' hs
  refine ⟨hs.fresh 0, fun i => ?_, fun c hc => ?_, hs.registry, hs.covered, hs.there⟩
  · simpa [Nat.add_assoc, Nat.add_comm 1 i] using hs.fresh (i + 1)
  · obtain hlt | rfl | hgt := Nat.lt_trichotomy c s.cells.length
    · have hlt' := (hs.lt_length hc).2 hlt
      simpa [State.cell, List.getElem?_append_left hlt, List.getElem?_append_left hlt'] using
        hs.entries c hc
    · have hmap : s'.cells.length = ν.map s.cells.length := (hs.fresh 0).1
      simpa [State.cell, ← hmap] using h
    · -- cells behind the new one are not there
      obtain ⟨i, rfl⟩ := Nat.exists_eq_add_of_lt hgt
      have hmap : s'.cells.length + (i + 1) = ν.map (s.cells.length + (i + 1)) := (hs.fresh _).1
      simpa [State.cell, Nat.add_assoc, ← hmap] using hs.entries _ hc

/-- A component gets another state. -/
lemma setCell {c c' : CellId} (hc : ν.Cells c c') {l l' : List Held} (h : ν.Entries l l') :
    Engine.Mirrored ν k Unrelated (Engine.setCell c l) (Engine.setCell c' l') := by
  obtain ⟨rfl, hdom⟩ := hc
  intro s s' hs
  refine ⟨trivial, ?_, fun d hd => ?_, hs.registry, hs.covered, hs.there⟩
  · simpa using hs.fresh
  · have hnumber : ν.map c = ν.map d ↔ c = d := ⟨ν.inj c hdom d hd, congrArg ν.map⟩
    have hthere := hs.lt_length hdom
    have hentries := hs.entries d hd
    simp only [Engine.exec_setCell, State.cell, List.getElem?_set, hnumber, hthere]
    obtain rfl | hcd := eq_or_ne c d
    · by_cases hlt : c < s.cells.length
      · simpa only [↓reduceIte, hlt, Option.getD_some] using h
      · simp only [↓reduceIte, hlt, Option.getD_none]
        exact ⟨rfl, .nil⟩
    · simp only [hcd, ↓reduceIte]
      exact hentries

/-- What changes about bags changes nothing. -/
lemma setProperty (p : BagId) (key : String) (v v' : Value) :
    Engine.Mirrored ν k Unrelated (discard (Engine.setProperty p key v) : Engine Unit)
      (discard (Engine.setProperty p key v')) :=
  fun _ _ hs => ⟨trivial, hs.congr rfl rfl rfl rfl rfl rfl⟩

/-- An edge is registered in both states. -/
lemma addConversion (r : RegistryId) {c : Conversion} (hc : ν.Covers c.routine.cells) :
    Engine.Mirrored ν k Unrelated (Engine.addConversion r c)
      (Engine.addConversion r (c.renumber ν.map)) := by
  refine (report _ _).seq fun _ _ s s' hs => ⟨trivial, ?_⟩
  let add (c : Conversion) (g : Registry) : Registry := g.add c
  have hlength := s.length_registries_updateRegistry r (add c)
  have hlength' := s'.length_registries_updateRegistry r (add (c.renumber ν.map))
  change (s.updateRegistry r (add c)).Mirrors ν k (s'.updateRegistry r (add (c.renumber ν.map)))
  by_cases hr : r = k ∧ k < s.registries.length
  · obtain ⟨rfl, hlt⟩ := hr
    refine ⟨hs.fresh, hs.entries, ?_, fun d hd => ?_, by rw [hlength, hlength', hs.there]⟩
    · rw [s.registry_updateRegistry_self _ hlt, s'.registry_updateRegistry_self _ (hs.there.2 hlt)]
      simp only [add, hs.registry, Registry.add, OrderedMap.mapValues_insert]
      rfl
    · rw [s.registry_updateRegistry_self _ hlt] at hd
      obtain rfl | hd := OrderedMap.mem_values_insert hd
      · exact hc
      · exact hs.covered d hd
  · -- the registry is another one, or it is not there
    have hstays {t : State} (hthere : k < t.registries.length ↔ k < s.registries.length)
        (u : Registry → Registry) : (t.updateRegistry r u).registry k = t.registry k := by
      by_cases hk : r = k
      · have hle : t.registries.length ≤ k := not_lt.1 fun hlt => hr ⟨hk, hthere.1 hlt⟩
        rw [State.registry_of_length_le hle, State.registry_of_length_le]
        rwa [t.length_registries_updateRegistry]
      · exact t.registry_updateRegistry_of_ne u hk
    exact hs.congr rfl rfl (hstays Iff.rfl _) (hstays hs.there _) hlength hlength'

end Engine.Mirrored

namespace Assembly.Mirrored

/-- Successes with results that are related. -/
lemma pure {a a' : α} (h : R a a') : Assembly.Mirrored ν k R (Pure.pure a) (Pure.pure a') :=
  Engine.Mirrored.pure (a := Except.ok a) (.ok h)

/-- The same failure. -/
lemma throw (e : BuildError) :
    Assembly.Mirrored ν k R (throw e : Assembly α) (throw e : Assembly α) :=
  Engine.Mirrored.pure (a := Except.error e) (.error e)

/-- Outcomes that are related. -/
lemma ofExcept {o o' : Except BuildError α} (h : Outcomes R o o') :
    Assembly.Mirrored ν k R (Assembly.ofExcept o) (Assembly.ofExcept o') := Engine.Mirrored.pure h

/-- Sequences that stop at the first failure, of which both parts have the same outcomes. -/
lemma bind {x x' : Assembly α} {g g' : α → Assembly β} (hx : Assembly.Mirrored ν k R x x')
    (hg : ∀ a a', R a a' → Assembly.Mirrored ν k S (g a) (g' a')) :
    Assembly.Mirrored ν k S (x >>= g) (x' >>= g') := by
  change Engine.Mirrored ν k _ (x.run >>= ExceptT.bindCont g) (x'.run >>= ExceptT.bindCont g')
  refine Engine.Mirrored.bind hx fun o o' ho => ?_
  cases ho with
  | ok h => exact hg _ _ h
  | error e => exact throw e

/-- Sequences in which the result of the first part does not matter. -/
lemma seq {x x' : Assembly α} {g g' : α → Assembly β} (hx : Assembly.Mirrored ν k R x x')
    (hg : ∀ a a', Assembly.Mirrored ν k S (g a) (g' a')) :
    Assembly.Mirrored ν k S (x >>= g) (x' >>= g') := hx.bind fun a a' _ => hg a a'

/-- Computations that cannot fail. -/
lemma lift {x x' : Engine α} (h : Engine.Mirrored ν k R x x') :
    Assembly.Mirrored ν k R (liftM x) (liftM x') :=
  Engine.Mirrored.bind h fun _ _ ha => pure ha

/-- What computations that may fail find in the two states is the same up to the numbers. -/
lemma get_bind {g g' : State → Assembly β}
    (hg : ∀ s s', s.Mirrors ν k s' → Assembly.Mirrored ν k S (g s) (g' s')) :
    Assembly.Mirrored ν k S (get >>= g) (get >>= g') := by
  change Engine.Mirrored ν k _ (get >>= fun s => (g s).run) (get >>= fun s => (g' s).run)
  exact Engine.Mirrored.get_bind hg

/-- What computations leave that both succeed. -/
lemma of_exec {x x' : Assembly α} {s s' t t' : State} {a a' : α}
    (h : Assembly.Mirrored ν k R x x') (hs : s.Mirrors ν k s') (hx : x.exec s = (.ok a, t))
    (hx' : x'.exec s' = (.ok a', t')) : R a a' ∧ t.Mirrors ν k t' := by
  have hrun : Engine.exec x.run s = (.ok a, t) := hx
  have hrun' : Engine.exec x'.run s' = (.ok a', t') := hx'
  have hmirrored := h s s' hs
  rw [hrun, hrun'] at hmirrored
  obtain ⟨⟨h⟩, ht⟩ := hmirrored
  exact ⟨h, ht⟩

/-- Registering values that are the same up to the numbers. -/
lemma register (r : RegistryId) {v v' : Value} (h : ν.Values v v') :
    Assembly.Mirrored ν k Unrelated (Assembly.register r v) (Assembly.register r v') := by
  obtain ⟨rfl, hv⟩ := h
  unfold Assembly.register
  rw [Conversion.ofValue_renumber]
  cases hc : Conversion.ofValue v with
  | ok c =>
    have hcovers : ν.Covers c.routine.cells := Conversion.cells_ofValue hc ▸ hv
    exact lift (.addConversion r hcovers)
  | error e => exact throw e

end Assembly.Mirrored

/-! ## Calls -/

/-- Expressions make the same components. Which values they have does not matter here, since the
variables may differ. -/
lemma Expr.mirrored_eval : ∀ e : Expr, Engine.Mirrored ν k Unrelated e.eval e.eval
  | .datum _ => .pure trivial
  | .func _ true => .pure trivial
  | .func _ false => .pure trivial
  | .app _ _ true => .pure trivial
  | .app _ _ false => .pure trivial
  | .numData _ _ => .pure trivial
  | .num _ _ true => .pure trivial
  | .num _ _ false => .pure trivial
  | .value inner => inner.mirrored_eval.seq fun _ _ => .pure trivial
  | .component _ _ _ none => (Engine.Mirrored.newCell ⟨rfl, .nil⟩).seq fun _ _ => .pure trivial
  | .component _ _ _ (some callable) => callable.mirrored_eval.seq fun _ _ =>
    (Engine.Mirrored.newCell ⟨rfl, .nil⟩).seq fun _ _ => .pure trivial
  | .componentData _ _ => (Engine.Mirrored.newCell ⟨rfl, .nil⟩).seq fun _ _ => .pure trivial
  | .componentType _ _ _ _ => .pure trivial
  | .mountType => .pure trivial
  | .mapOptions _ _ => .pure trivial
  | .var _ => .get_bind fun _ _ _ => .pure trivial

/-- What a function does besides its result is the same. -/
lemma Func.mirrored_effects (g : Func) (trace : String) :
    Engine.Mirrored ν k Unrelated (g.effects trace) (g.effects trace) := by
  unfold Func.effects
  refine (Engine.Mirrored.logCall trace).seq fun _ _ => .seq (.forM fun h _ => ?_) fun _ _ =>
    .forM fun w _ => w.2.mirrored_eval.seq fun v v' => .setProperty _ _ v v'
  cases hc : Conversion.ofRoutine (.func h none) with
  | ok c =>
    have hcells : c.routine.cells = [] :=
      Conversion.cells_ofValue (v := .callable (.func h none)) hc
    have hcovers : ν.Covers c.routine.cells := hcells ▸ .nil
    have hadd := Engine.Mirrored.addConversion (k := k) State.rootRegistry hcovers
    rwa [Conversion.renumber_eq_self (hcells ▸ nofun)] at hadd
  | error e => exact .pure trivial

namespace Num

/-- A number function with other numbers gives the same if what it calls does. -/
lemma mirrored_evalWith {held held' : CellId → UInt32 → Engine UInt32}
    (hheld : ∀ c ∈ ν.dom, ∀ x, Engine.Mirrored ν k Eq (held c x) (held' (ν.map c) x)) {n : Num}
    (hn : ν.Covers n.cells) (x : UInt32) :
    Engine.Mirrored ν k Eq (n.evalWith held x) ((n.renumber ν.map).evalWith held' x) := by
  induction n with
  | linear mul add => exact .pure rfl
  | func g => exact (g.mirrored_effects _).seq fun _ _ => .pure rfl
  | «over» step base ih => exact (ih hn).bind fun _ _ h => .pure (congrArg (advance step) h)
  | plain step => exact .pure rfl
  | resumed step cell =>
    exact (hheld cell (hn cell (List.mem_singleton_self cell)) x).bind fun _ _ h =>
      .pure (congrArg (advance step) h)

/-- So does the function in a cell that stands for another one. -/
lemma mirrored_evalHeld (depth : Nat) {c : CellId} (hc : c ∈ ν.dom) (x : UInt32) :
    Engine.Mirrored ν k Eq (evalHeld depth c x) (evalHeld depth (ν.map c) x) := by
  induction depth generalizing c x with
  | zero => exact .pure rfl
  | succ depth ih =>
    refine .get_bind fun s s' hs => ?_
    rw [hs.heldNum hc]
    cases hheld : s.heldNum c with
    | none => exact .pure rfl
    | some n =>
      exact mirrored_evalWith (fun _ hd => ih hd)
        (fun d hd => (hs.entries c hc).2 d (mem_heldCells_of_num? hheld hd)) x

/-- Number functions give the same numbers. -/
lemma mirrored_eval {n : Num} (hn : ν.Covers n.cells) (x : UInt32) :
    Engine.Mirrored ν k Eq (n.eval x) ((n.renumber ν.map).eval x) :=
  mirrored_evalWith (fun _ hc => mirrored_evalHeld _ hc) hn x

end Num

/-- A routine with other numbers shows the same text. -/
lemma Routine.mirrored_render {r : Routine} (hr : ν.Covers r.cells) :
    Engine.Mirrored ν k Eq r.render (r.renumber ν.map).render := by
  unfold Routine.render
  rw [num?_renumber]
  cases hn : r.num? with
  | none => exact .pure rfl
  | some n =>
    rw [← cells_num? hn] at hr
    exact (n.mirrored_eval hr 1).bind fun y y' h =>
      .pure (congrArg (fun z => "num:" ++ toString z) h)

/-- A component with other numbers shows the same text. -/
lemma Instance.mirrored_render {i : Instance} (hi : ν.Covers i.cells) :
    Engine.Mirrored ν k Eq i.render (i.renumber ν.map).render := by
  cases i with
  | crafted cls label ops callable cell =>
    have hcell : cell ∈ ν.dom := hi cell (by cases callable <;> exact List.mem_cons_self)
    cases callable <;>
      exact .get_bind fun s s' hs => .pure (by rw [hs.cellText hcell])
  | mount path branch next => exact .pure rfl

mutual

/-- A content with other numbers shows the same text. -/
lemma Content.mirrored_render : ∀ {c : Content}, ν.Covers c.cells →
    Engine.Mirrored ν k Eq c.render (c.renumber ν.map).render
  | .datum _, _ => .pure rfl
  | .routine _, h => Routine.mirrored_render h
  | .app _ _, _ => .pure rfl
  | .value _, h => (Value.mirrored_render h).bind fun _ _ h =>
    .pure (congrArg (fun s => "<" ++ s ++ ">") h)
  | .component _, h => Instance.mirrored_render h
  | .mapOptions _ _, _ => .pure rfl
  | .predicate _, _ => .pure rfl
  | .registration _, _ => .pure rfl

/-- Values show the same text. -/
lemma Value.mirrored_render : ∀ {v : Value}, ν.Covers v.cells →
    Engine.Mirrored ν k Eq v.render (v.renumber ν.map).render
  | .data _, h => Content.mirrored_render h
  | .bound _, h => Content.mirrored_render h
  | .callable _, h => Routine.mirrored_render h
  | .component _, h => Instance.mirrored_render h
  | .componentType _, _ => .pure rfl

end

/-- Contents are made ready for a cell in the same way up to the numbers. -/
lemma mirrored_hold {args : List Content} (h : ν.Covers (args.flatMap Content.cells)) :
    Engine.Mirrored ν k ν.Entries (hold args) (hold (args.map (Content.renumber ν.map))) := by
  unfold hold
  induction args with
  | nil => exact .pure ⟨rfl, .nil⟩
  | cons c args ih =>
    obtain ⟨hc, hargs⟩ := Renumbering.covers_append.1 h
    rw [List.map_cons, List.mapM_cons, List.mapM_cons]
    refine .bind (R := fun e e' => e' = e.renumber ν.map ∧ ν.Covers e.content.cells)
      (.bind (Content.mirrored_render hc) fun text text' htext => .pure ⟨?_, hc⟩) fun e e' he => ?_
    · rw [htext]
      rfl
    · refine (ih hargs).bind fun l l' hl => .pure ?_
      rw [he.1, hl.1]
      exact ⟨rfl, Renumbering.covers_append.2 ⟨he.2, hl.2⟩⟩

/-- The line in the call log does not tell the numbers. -/
lemma callLine_renumber (label : String) (l : List Held) :
    callLine label (l.map (Held.renumber ν.map)) = callLine label l := by
  rw [callLine, callLine, List.map_map]
  rfl

/-- The result of a function. -/
lemma Func.mirrored_result (g : Func) (trace : String) {l : List Held}
    (h : ν.Covers (heldCells l)) :
    Engine.Mirrored ν k ν.Contents (g.result trace l)
      (g.result trace (l.map (Held.renumber ν.map))) := by
  unfold Func.result
  cases g.out with
  | numFn =>
    dsimp only
    rw [findSome?_renumber Content.num?_renumber]
    cases hbase : l.findSome? fun e => e.content.num? with
    | none => exact .pure ⟨rfl, .nil⟩
    | some base => exact .pure ⟨rfl, fun c hc => h c (mem_heldCells_of_num? hbase hc)⟩
  | app form =>
    dsimp only
    rw [findSome?_renumber Content.app?_renumber]
    refine .pure ⟨?_, ?_⟩
    · rw [AppForm.renumber_wrap]
      cases l.findSome? fun e => e.content.app? <;> rfl
    · rw [AppForm.cells_wrap]
      cases happ : l.findSome? fun e => e.content.app? with
      | none => exact .nil
      | some a => exact fun c hc => h c (mem_heldCells_of_app? happ hc)
  | component =>
    refine (Engine.Mirrored.newCell ⟨rfl, h⟩).bind fun c c' hc => .pure ?_
    rw [hc.1]
    exact ⟨rfl, fun d hd => List.mem_singleton.1 hd ▸ hc.2⟩
  | _ => exact .pure ⟨rfl, .nil⟩

/-- A function has the same outcome up to the numbers. -/
lemma Func.mirrored_run (g : Func) {owner : Option CellId} (howner : ν.Covers owner.toList)
    {args : List Content} (h : ν.Covers (args.flatMap Content.cells)) :
    Engine.Mirrored ν k ν.Contents (g.run owner args)
      (g.run (owner.map ν.map) (args.map (Content.renumber ν.map))) := by
  unfold Func.run
  refine (mirrored_hold h).bind fun l l' hl => ?_
  obtain ⟨rfl, hcovers⟩ := hl
  rw [callLine_renumber]
  refine (g.mirrored_effects _).seq fun _ _ => ?_
  have hresult := g.mirrored_result (k := k) (callLine g.label l) hcovers
  dsimp only
  cases owner with
  | none => exact hresult
  | some cell =>
    exact (Engine.Mirrored.setCell ⟨rfl, howner cell (by simp)⟩ ⟨rfl, hcovers⟩).seq
      fun _ _ => hresult

/-- Routines do the same to contents of their parameter types. -/
lemma Routine.mirrored_run {r : Routine} (hr : ν.Covers r.cells) {args : List Content}
    (htyped : Typed args r.params) (h : ν.Covers (args.flatMap Content.cells)) :
    Engine.Mirrored ν k ν.Contents (r.run args)
      ((r.renumber ν.map).run (args.map (Content.renumber ν.map))) := by
  cases receives_of_typed htyped with
  | func g owner => exact g.mirrored_run hr h
  | num n x => exact (n.mirrored_eval hr x).bind fun y y' hy => .pure ⟨by rw [hy]; rfl, .nil⟩
  | toObject a | toFunc a | layer l a =>
    exact .pure ⟨rfl, by simpa [Content.cells, App.cells] using h⟩
  | register r v =>
    have hv : ν.Values v (v.renumber ν.map) := ⟨rfl, by simpa [Content.cells] using h⟩
    refine Engine.Mirrored.bind (Assembly.Mirrored.register r hv) fun o o' ho => ?_
    cases ho with
    | ok _ => exact .pure ⟨rfl, .nil⟩
    | error e => exact .pure ⟨rfl, .nil⟩
  | handler a => exact .pure ⟨rfl, hr⟩
  | choose next c branch =>
    refine .pure ⟨rfl, ?_⟩
    simp only [List.flatMap_cons, Content.cells, App.cells, Renumbering.covers_append] at h ⊢
    exact ⟨h.2.2.1, h.1⟩

/-- The contents of arguments. -/
lemma outcomes_extractAll (params : List Shape) {args : Args} (h : ν.Covers args.cells) :
    Outcomes (fun cs cs' => cs' = cs.map (Content.renumber ν.map) ∧ Typed cs params ∧
        ν.Covers (cs.flatMap Content.cells))
      (extractAll params args) (extractAll params (args.renumber ν.map)) := by
  rw [extractAll_renumber]
  cases hcs : extractAll params args with
  | ok cs => exact .ok ⟨rfl, typed_of_extractAll hcs, fun c hc => h c (cells_extractAll hcs c hc)⟩
  | error e => exact .error e

/-- Calls do the same. -/
lemma Routine.mirrored_invoke {r : Routine} (hr : ν.Covers r.cells) {args : Args}
    (h : ν.Covers args.cells) :
    Assembly.Mirrored ν k ν.Values (r.invoke args)
      ((r.renumber ν.map).invoke (args.renumber ν.map)) := by
  unfold Routine.invoke
  rw [params_renumber]
  refine .bind (.ofExcept (outcomes_extractAll r.params h)) fun cs cs' hcs => ?_
  obtain ⟨rfl, htyped, hcovers⟩ := hcs
  refine .bind (.lift (mirrored_run hr htyped hcovers)) fun c c' hc => .pure ?_
  rw [hc.1]
  exact ⟨rfl, hc.2⟩

end Pipework
