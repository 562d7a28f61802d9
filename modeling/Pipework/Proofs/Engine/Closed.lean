import Pipework.Proofs.Builder.Moves
import Pipework.Proofs.Value.Cells

set_option autoImplicit false

/-!
# States without loose ends

Whatever a property, a conversion, a variable or a component leads to is there. Nothing that is
evaluated, called, converted or built changes that: new values lead to what the values before them
led to, or to components that have been made on the way.

## Main definitions

* `State.Closed` — everything that a state leads to is there.
* `Engine.Keeps`, `Assembly.Keeps` — a computation that keeps states closed and whose result leads
  only to what is there.

## Main results

* `Routine.keeps_run`, `keeps_convertIn`, `Stage.keeps_apply` — calls, conversions and stages.
* `Builder.keeps_buildValue` — builds.
-/

namespace Pipework

/-- The properties in a bag lead only to cells below `n`. -/
def Bag.Closed (n : Nat) (g : Bag) : Prop :=
  ∀ key v, g.get? key = some v → Below n v.cells

namespace Bag.Closed

variable {n m : Nat} {g : Bag}

/-- What is there stays there as components are made. -/
lemma mono (h : g.Closed n) (hnm : n ≤ m) : g.Closed m :=
  fun key v hv => (h key v hv).mono hnm

/-- An empty bag leads nowhere. -/
lemma empty (n : Nat) : Bag.Closed n .empty := nofun

/-- The bag of a new builder leads nowhere. -/
lemma seeded (r : RegistryId) (n : Nat) : Bag.Closed n (Builder.seededBag r) := by
  intro key v hv
  have hmem : (key, v) ∈ [(addConversionKey, .callable (.register r)),
      (defaultAppKey, notFoundValue)] := OrderedMap.mem_of_get? hv
  simp only [List.mem_cons, Prod.mk.injEq, List.not_mem_nil, or_false] at hmem
  obtain ⟨-, rfl⟩ | ⟨-, rfl⟩ := hmem
  · exact .nil n
  · exact .nil n

/-- A bag takes a value that leads only to what is there. -/
lemma insert (h : g.Closed n) (key : String) {v : Value} (hv : Below n v.cells) :
    Bag.Closed n (g.insert key v) := by
  intro k u hu
  rw [OrderedMap.get?_insert] at hu
  split at hu
  · cases hu
    exact hv
  · exact h k u hu

/-- A bag leads to nothing new when a property is removed. -/
lemma erase (h : g.Closed n) (key : String) : Bag.Closed n (g.erase key) := by
  intro k u hu
  rw [OrderedMap.get?_erase] at hu
  split at hu
  · cases hu
  · exact h k u hu

end Bag.Closed

/-- The edges of a registry lead only to cells below `n`. -/
def Registry.Closed (n : Nat) (g : Registry) : Prop :=
  ∀ c ∈ g.edges, Below n c.routine.cells

namespace Registry.Closed

variable {n m : Nat} {g : Registry}

/-- What is there stays there as components are made. -/
lemma mono (h : g.Closed n) (hnm : n ≤ m) : g.Closed m := fun c hc => (h c hc).mono hnm

/-- An empty registry leads nowhere. -/
lemma empty (n : Nat) : Registry.Closed n .empty := nofun

/-- The registry of a new builder leads nowhere. -/
lemma builtin (n : Nat) : Registry.Closed n .builtin := by
  intro c hc
  have hmem : c ∈ [Conversion.toObject, .toFunc] := hc
  simp only [List.mem_cons, List.not_mem_nil, or_false] at hmem
  obtain rfl | rfl := hmem
  · exact .nil n
  · exact .nil n

/-- A registry takes an edge whose routine leads only to what is there. -/
lemma add (h : g.Closed n) {c : Conversion} (hc : Below n c.routine.cells) :
    Registry.Closed n (g.add c) := by
  intro d hd
  obtain rfl | hd := OrderedMap.mem_values_insert hd
  · exact hc
  · exact h d hd

end Registry.Closed

/-- Whatever a state leads to is there. -/
structure State.Closed (s : State) : Prop where
  bag : ∀ p, (s.bag p).Closed s.cells.length
  registry : ∀ r, (s.registry r).Closed s.cells.length
  vars : ∀ name v, s.vars.get? name = some v → Below s.cells.length v.cells
  held : ∀ c, Below s.cells.length (heldCells (s.cell c))

namespace State.Closed

variable {s s' : State}

/-- A step that changes nothing which leads anywhere. -/
lemma congr (hs : s.Closed) (hbags : s'.bags = s.bags) (hregistries : s'.registries = s.registries)
    (hcells : s'.cells = s.cells) (hvars : s'.vars = s.vars) : s'.Closed where
  bag := by
    rw [hcells]
    simpa only [State.bag, hbags] using hs.bag
  registry := by
    rw [hcells]
    simpa only [State.registry, hregistries] using hs.registry
  vars := by
    rw [hcells, hvars]
    exact hs.vars
  held := by simpa only [State.cell, hcells] using hs.held

/-- A change to one bag that keeps it closed. -/
lemma updateBag (hs : s.Closed) (p : BagId) {u : Bag → Bag}
    (hu : ∀ g : Bag, g.Closed s.cells.length → (u g).Closed s.cells.length) :
    (s.updateBag p u).Closed where
  bag q := by
    obtain hq | hq := s.bag_updateBag_eq_or p q u
    · exact hq ▸ hs.bag q
    · exact hq ▸ hu _ (hs.bag q)
  registry := hs.registry
  vars := hs.vars
  held := hs.held

/-- A change to one registry that keeps it closed. -/
lemma updateRegistry (hs : s.Closed) (r : RegistryId) {u : Registry → Registry}
    (hu : ∀ g : Registry, g.Closed s.cells.length → (u g).Closed s.cells.length) :
    (s.updateRegistry r u).Closed where
  bag := hs.bag
  registry k := by
    obtain hk | hk := s.registry_updateRegistry_eq_or r k u
    · exact hk ▸ hs.registry k
    · exact hk ▸ hu _ (hs.registry k)
  vars := hs.vars
  held := hs.held

/-- In a closed state the footprint of an app is there if its own cells are. -/
lemma lt_length (hs : s.Closed) {a : App} (ha : Below s.cells.length a.cells) {c : CellId}
    (h : s.Reaches a c) : c < s.cells.length :=
  h.mem (P := {c | c < s.cells.length}) ha fun c _ _ hb => (hs.held c).app? hb

/-- A state with one builder that has just been made leads nowhere. -/
lemma fresh (components : Nat) : (State.fresh components).Closed where
  bag p := by
    cases p with
    | zero => exact .seeded 0 _
    | succ p => exact .empty _
  registry r := by
    cases r with
    | zero => exact .builtin _
    | succ r => exact .empty _
  vars name v hv := by cases hv
  held c := by
    have hcell : (State.fresh components).cell c = [] := by
      simp only [State.cell, State.fresh, List.getElem?_replicate]
      split <;> rfl
    rw [hcell]
    exact .nil _

end State.Closed

/-! ## Computations -/

/-- Started with at least `n` components and without loose ends, a computation leaves none, and its
result leads only to what is there. -/
def Engine.Keeps {α : Type} (n : Nat) (x : Engine α) (out : α → List CellId) : Prop :=
  ∀ s : State, s.Closed → n ≤ s.cells.length →
    (x.exec s).2.Closed ∧ s.cells.length ≤ (x.exec s).2.cells.length ∧
      Below (x.exec s).2.cells.length (out (x.exec s).1)

/-- The same for a computation that may fail. -/
def Assembly.Keeps {α : Type} (n : Nat) (x : Assembly α) (out : α → List CellId) : Prop :=
  Engine.Keeps n x.run fun r => match r with
    | .ok a => out a
    | .error _ => []

variable {α β : Type} {n m : Nat} {out : α → List CellId} {out' : β → List CellId}

/-- Results that lead nowhere. -/
def nowhere (_ : α) : List CellId := []

namespace Engine.Keeps

/-- What keeps states closed does so also with more components to begin with. -/
lemma mono {x : Engine α} (h : x.Keeps n out) (hnm : n ≤ m) : x.Keeps m out :=
  fun s hs hm => h s hs (hnm.trans hm)

/-- A result that leads to what is there. -/
lemma pure {a : α} (h : Below n (out a)) : Engine.Keeps n (Pure.pure a) out :=
  fun _ hs hn => ⟨hs, le_rfl, h.mono hn⟩

/-- What goes on after a result knows where the result leads, in a state with as many components. -/
lemma bind {x : Engine α} {f : α → Engine β} (hx : x.Keeps n out)
    (hf : ∀ a m, n ≤ m → Below m (out a) → (f a).Keeps m out') :
    Engine.Keeps n (x >>= f) out' := by
  intro s hs hn
  obtain ⟨hs₁, hle, hout⟩ := hx s hs hn
  obtain ⟨hs₂, hle', hout'⟩ := hf _ _ (hn.trans hle) hout _ hs₁ le_rfl
  exact ⟨hs₂, hle.trans hle', hout'⟩

/-- What goes on after a result that it does not depend on. -/
lemma seq {x : Engine α} {f : α → Engine β} (hx : x.Keeps n out)
    (hf : ∀ a, (f a).Keeps n out') : Engine.Keeps n (x >>= f) out' :=
  hx.bind fun a _ hnm _ => (hf a).mono hnm

/-- What a computation finds in the state is there. -/
lemma get_bind {f : State → Engine β} (hf : ∀ s : State, s.Closed → n ≤ s.cells.length →
    (f s).Keeps s.cells.length out') : Engine.Keeps n (get >>= f) out' :=
  fun s hs hn => hf s hs hn s hs le_rfl

/-- Steps one after the other, without results. -/
lemma forM {f : α → Engine PUnit} {l : List α} (h : ∀ a ∈ l, (f a).Keeps n nowhere) :
    Engine.Keeps n (l.forM f) nowhere := by
  induction l with
  | nil => exact .pure (.nil n)
  | cons a l ih =>
    exact (h a List.mem_cons_self).seq fun _ => ih fun b hb => h b (List.mem_cons_of_mem _ hb)

/-- Steps one after the other, with a list of their results. -/
lemma mapM {f : α → Engine β} {l : List α} (h : ∀ a ∈ l, (f a).Keeps n out') :
    Engine.Keeps n (l.mapM f) fun bs => bs.flatMap out' := by
  induction l with
  | nil => exact .pure (.nil n)
  | cons a l ih =>
    rw [List.mapM_cons]
    refine (h a List.mem_cons_self).bind fun b m hnm hb => ?_
    refine ((ih fun c hc => h c (List.mem_cons_of_mem _ hc)).mono hnm).bind fun bs k hmk hbs => ?_
    exact .pure (Below.append_iff.2 ⟨hb.mono hmk, hbs⟩)

/-! ### Operations -/

/-- A step that changes neither bags, registries, cells nor variables. -/
lemma of_eq {x : Engine α} (h : ∀ s, (x.exec s).2.bags = s.bags ∧
    (x.exec s).2.registries = s.registries ∧ (x.exec s).2.cells = s.cells ∧
      (x.exec s).2.vars = s.vars) : x.Keeps n nowhere := by
  intro s hs _
  obtain ⟨hbags, hregistries, hcells, hvars⟩ := h s
  exact ⟨hs.congr hbags hregistries hcells hvars, hcells ▸ le_rfl, .nil _⟩

/-- Writing to the call log. -/
lemma logCall (line : String) : (Engine.logCall line).Keeps n nowhere :=
  of_eq fun _ => ⟨rfl, rfl, rfl, rfl⟩

/-- Reports. -/
lemma report (e : Event) : (Engine.report e).Keeps n nowhere :=
  of_eq fun _ => ⟨rfl, rfl, rfl, rfl⟩

/-- Counting. -/
lemma raise (c : Counter) (k : Nat) : (Engine.raise c k).Keeps n nowhere :=
  of_eq fun _ => ⟨rfl, rfl, rfl, rfl⟩

/-- A new component is there, and so is everything that has been before. -/
lemma newCell {entries : List Held} (h : Below n (heldCells entries)) :
    (Engine.newCell entries).Keeps n fun c => [c] := by
  intro s hs hn
  have hle : s.cells.length ≤ (s.cells ++ [entries]).length := by simp
  refine ⟨⟨?_, ?_, ?_, fun c => ?_⟩, hle, by simp [Below]⟩
  · exact fun p => (hs.bag p).mono hle
  · exact fun r => (hs.registry r).mono hle
  · exact fun name v hv => (hs.vars name v hv).mono hle
  · obtain hlt | rfl | hgt := Nat.lt_trichotomy c s.cells.length
    · have hcell := (hs.held c).mono hle
      simpa [State.cell, List.getElem?_append_left hlt] using hcell
    · simpa [State.cell] using h.mono (hn.trans hle)
    · have hnone : (s.cells ++ [entries])[c]? = none :=
        List.getElem?_eq_none (by rw [List.length_append, List.length_singleton]; omega)
      simp [State.cell, hnone, heldCells, Below]

/-- A component gets another state. -/
lemma setCell (c : CellId) {entries : List Held} (h : Below n (heldCells entries)) :
    (Engine.setCell c entries).Keeps n nowhere := by
  intro s hs hn
  have hlength : (s.cells.set c entries).length = s.cells.length := List.length_set
  refine ⟨⟨?_, ?_, ?_, fun d => ?_⟩, hlength.ge, .nil _⟩
  · exact fun p => (hs.bag p).mono hlength.ge
  · exact fun r => (hs.registry r).mono hlength.ge
  · exact fun name v hv => (hs.vars name v hv).mono hlength.ge
  · simp only [Engine.exec_setCell, State.cell, List.getElem?_set, hlength]
    split
    · split
      · exact h.mono hn
      · exact .nil _
    · exact hs.held d

/-- A property is set to a value that leads only to what is there. -/
lemma setProperty (p : BagId) (key : String) {v : Value} (h : Below n v.cells) :
    (discard (Engine.setProperty p key v) : Engine Unit).Keeps n nowhere :=
  fun _ hs hn => ⟨hs.updateBag p fun _ hg => hg.insert key (h.mono hn), le_rfl, .nil _⟩

/-- An edge is registered whose routine leads only to what is there. -/
lemma addConversion (r : RegistryId) {c : Conversion} (h : Below n c.routine.cells) :
    (Engine.addConversion r c).Keeps n nowhere :=
  (report _).seq fun _ _ hs hn =>
    ⟨hs.updateRegistry r fun _ hg => hg.add (h.mono hn), le_rfl, .nil _⟩

end Engine.Keeps

namespace Assembly.Keeps

/-- The same with more components to begin with, for a computation that may fail. -/
lemma mono {x : Assembly α} (h : x.Keeps n out) (hnm : n ≤ m) : x.Keeps m out :=
  Engine.Keeps.mono h hnm

/-- What a computation that succeeds leaves. -/
lemma of_exec {x : Assembly α} {s s' : State} {a : α} (h : x.Keeps s.cells.length out)
    (hs : s.Closed) (hx : x.exec s = (.ok a, s')) : s'.Closed ∧ Below s'.cells.length (out a) := by
  have hrun : Engine.exec x.run s = (.ok a, s') := hx
  have hkept := h s hs le_rfl
  rw [hrun] at hkept
  exact ⟨hkept.1, hkept.2.2⟩

/-- A success with a result that leads to what is there. -/
lemma pure {a : α} (h : Below n (out a)) : Assembly.Keeps n (Pure.pure a) out :=
  fun _ hs hn => ⟨hs, le_rfl, h.mono hn⟩

/-- A failure leads nowhere. -/
lemma throw (e : BuildError) : Assembly.Keeps n (throw e : Assembly α) out :=
  Engine.Keeps.pure (a := Except.error e) (.nil n)

/-- A sequence in which the second part knows where the result of the first one leads. -/
lemma bind {x : Assembly α} {f : α → Assembly β} (hx : x.Keeps n out)
    (hf : ∀ a m, n ≤ m → Below m (out a) → (f a).Keeps m out') :
    Assembly.Keeps n (x >>= f) out' := by
  change Engine.Keeps n (x.run >>= ExceptT.bindCont f) _
  refine Engine.Keeps.bind hx fun r m hnm hr => ?_
  cases r with
  | ok a => exact hf a m hnm hr
  | error e => exact throw e

/-- A sequence in which the second part does not need to know that. -/
lemma seq {x : Assembly α} {f : α → Assembly β} (hx : x.Keeps n out)
    (hf : ∀ a, (f a).Keeps n out') : Assembly.Keeps n (x >>= f) out' :=
  hx.bind fun a _ hnm _ => (hf a).mono hnm

/-- A computation that cannot fail. -/
lemma lift {x : Engine α} (h : x.Keeps n out) : Assembly.Keeps n (liftM x) out :=
  Engine.Keeps.bind h fun _ _ _ ha => pure ha

/-- What a computation that may fail finds in the state is there. -/
lemma get_bind {f : State → Assembly β} (hf : ∀ s : State, s.Closed → n ≤ s.cells.length →
    (f s).Keeps s.cells.length out') : Assembly.Keeps n (get >>= f) out' := by
  change Engine.Keeps n (get >>= fun s => (f s).run) _
  exact Engine.Keeps.get_bind hf

/-- Registering a value adds an edge that leads to what the value leads to. -/
lemma register (r : RegistryId) {v : Value} (h : Below n v.cells) :
    (Assembly.register r v).Keeps n nowhere := by
  unfold Assembly.register
  cases hc : Conversion.ofValue v with
  | ok c => exact lift (.addConversion r (Conversion.cells_ofValue hc ▸ h))
  | error e => exact throw e

end Assembly.Keeps

/-! ## Calls -/

/-- What an expression writes down leads to new components, and where the variables lead. -/
lemma Expr.keeps_eval : ∀ e : Expr, e.eval.Keeps n Value.cells
  | .datum _ => .pure (.nil n)
  | .func _ true => .pure (.nil n)
  | .func _ false => .pure (.nil n)
  | .app _ _ true => .pure (.nil n)
  | .app _ _ false => .pure (.nil n)
  | .numData _ _ => .pure (.nil n)
  | .num _ _ true => .pure (.nil n)
  | .num _ _ false => .pure (.nil n)
  | .value inner => inner.keeps_eval.bind fun _ _ _ h => .pure h
  | .component _ _ _ none => (Engine.Keeps.newCell (.nil n)).bind fun _ _ _ h => .pure h
  | .component _ _ _ (some callable) =>
    callable.keeps_eval.bind fun _ _ _ hv => (Engine.Keeps.newCell (.nil _)).bind fun _ _ hm h =>
      .pure (Below.append_iff.2 ⟨h, hv.mono hm⟩)
  | .componentData _ _ => (Engine.Keeps.newCell (.nil n)).bind fun _ _ _ h => .pure h
  | .componentType _ _ _ _ => .pure (.nil n)
  | .mountType => .pure (.nil n)
  | .mapOptions _ _ => .pure (.nil n)
  | .var name => .get_bind fun s hs _ => .pure (by
    cases hv : s.vars.get? name with
    | none => exact .nil _
    | some v => exact hs.vars name v hv)

/-- What a function does besides its result leaves no loose ends. -/
lemma Func.keeps_effects (f : Func) (trace : String) : (f.effects trace).Keeps n nowhere := by
  unfold Func.effects
  refine (Engine.Keeps.logCall trace).seq fun _ => .seq (.forM fun g _ => ?_) fun _ =>
    .forM fun w _ => ?_
  · split
    · next c hc =>
      have hcells : c.routine.cells = [] :=
        Conversion.cells_ofValue (v := .callable (.func g none)) hc
      exact .addConversion _ (hcells ▸ .nil n)
    · exact .pure (.nil n)
  · exact w.2.keeps_eval.bind fun v _ _ hv => .setProperty _ _ hv

namespace Num

/-- Evaluating a number function keeps states closed if what it calls does. -/
lemma keeps_evalWith {held : CellId → UInt32 → Engine UInt32}
    (hheld : ∀ c x, (held c x).Keeps n nowhere) (f : Num) (x : UInt32) :
    (f.evalWith held x).Keeps n nowhere := by
  induction f with
  | linear mul add => exact .pure (.nil n)
  | func f => exact (f.keeps_effects _).seq fun _ => .pure (.nil n)
  | «over» step base ih => exact ih.seq fun _ => .pure (.nil n)
  | plain step => exact .pure (.nil n)
  | resumed step cell => exact (hheld cell x).seq fun _ => .pure (.nil n)

/-- Evaluating the function in a cell keeps states closed. -/
lemma keeps_evalHeld (depth : Nat) (c : CellId) (x : UInt32) :
    (evalHeld depth c x).Keeps n nowhere := by
  induction depth generalizing n c x with
  | zero => exact .pure (.nil n)
  | succ depth ih =>
    refine .get_bind fun s _ _ => ?_
    split
    · exact keeps_evalWith ih _ _
    · exact .pure (.nil _)

/-- Applying a number function leaves no loose ends. -/
lemma keeps_eval (f : Num) (x : UInt32) : (f.eval x).Keeps n nowhere :=
  keeps_evalWith (keeps_evalHeld _) f x

end Num

/-- Showing a routine keeps states closed. -/
lemma Routine.keeps_render (r : Routine) : r.render.Keeps n nowhere := by
  unfold Routine.render
  split
  · exact (Num.keeps_eval _ 1).seq fun _ => .pure (.nil n)
  · exact .pure (.nil n)

/-- Showing a component keeps states closed. -/
lemma Instance.keeps_render (i : Instance) : i.render.Keeps n nowhere := by
  cases i with
  | crafted => exact .get_bind fun _ _ _ => .pure (.nil _)
  | mount => exact .pure (.nil n)

mutual

/-- Showing a content leaves no loose ends. -/
lemma Content.keeps_render : ∀ c : Content, c.render.Keeps n nowhere
  | .datum _ => .pure (.nil n)
  | .routine r => r.keeps_render
  | .app _ _ => .pure (.nil n)
  | .value v => v.keeps_render.seq fun _ => .pure (.nil n)
  | .component i => i.keeps_render
  | .mapOptions _ _ => .pure (.nil n)
  | .predicate _ => .pure (.nil n)
  | .registration _ => .pure (.nil n)

/-- Showing a value leaves no loose ends. -/
lemma Value.keeps_render : ∀ v : Value, v.render.Keeps n nowhere
  | .data c => c.keeps_render
  | .bound c => c.keeps_render
  | .callable r => r.keeps_render
  | .component i => i.keeps_render
  | .componentType _ => .pure (.nil n)

end

/-- Arguments that are held lead where they led before. -/
lemma keeps_hold {args : List Content} (h : Below n (args.flatMap Content.cells)) :
    (hold args).Keeps n heldCells :=
  .mapM fun c hc => c.keeps_render.bind fun _ _ hm _ => .pure ((Below.flatMap_iff.1 h c hc).mono hm)

/-- The result of a function leads to a new component, or where the arguments lead. -/
lemma Func.keeps_result (f : Func) (trace : String) {args : List Held}
    (h : Below n (heldCells args)) : (f.result trace args).Keeps n Content.cells := by
  unfold Func.result
  cases f.out with
  | numFn =>
    dsimp only
    split
    · next base hbase =>
      have hcells : Below n base.cells := h.num? hbase
      exact .pure hcells
    · exact .pure (.nil n)
  | app form =>
    refine .pure ?_
    rw [AppForm.cells_wrap]
    cases happ : args.findSome? fun h => h.content.app? with
    | none => exact .nil n
    | some a =>
      have hcells : Below n a.cells := h.app? happ
      exact hcells
  | component => exact (Engine.Keeps.newCell h).bind fun _ _ _ hc => .pure hc
  | _ => exact .pure (.nil n)

/-- What a function gives leads to what its arguments lead to, or to something new. -/
lemma Func.keeps_run (f : Func) (owner : Option CellId) {args : List Content}
    (h : Below n (args.flatMap Content.cells)) : (f.run owner args).Keeps n Content.cells := by
  refine (keeps_hold h).bind fun held m _ hheld => (f.keeps_effects _).seq fun _ => ?_
  dsimp only
  split
  · exact (Engine.Keeps.setCell _ hheld).seq fun _ => f.keeps_result _ hheld
  · exact f.keeps_result _ hheld

/-- The result of a call leads to a new component, or where the routine and the arguments lead. -/
lemma Routine.keeps_run {r : Routine} {args : List Content} (hr : Below n r.cells)
    (h : Below n (args.flatMap Content.cells)) : (r.run args).Keeps n Content.cells := by
  unfold Routine.run
  split
  · exact Func.keeps_run _ _ h
  · exact (Num.keeps_eval _ _).seq fun _ => .pure (.nil n)
  · exact .pure (by simpa [Content.cells, App.cells] using h)
  · exact .pure (by simpa [Content.cells, App.cells] using h)
  · refine .seq (x := (Assembly.register _ _).run) (Assembly.Keeps.register _ ?_) fun x => ?_
    · simpa [Content.cells] using h
    · split <;> exact .pure (.nil n)
  · exact .pure (by simpa [Content.cells, App.cells] using h)
  · exact .pure hr
  · refine .pure ?_
    simp only [List.flatMap_cons, Content.cells, App.cells, Below.append_iff] at h ⊢
    exact ⟨h.2.2.1, h.1⟩
  · exact .pure (.nil n)

/-- The contents of arguments lead where the arguments lead. -/
lemma keeps_extractAll (params : List Shape) {args : Args} (h : Below n args.cells) :
    (Assembly.ofExcept (extractAll params args)).Keeps n fun cs => cs.flatMap Content.cells := by
  cases hcs : extractAll params args with
  | error e => exact .throw e
  | ok cs => exact .pure fun c hc => h c (cells_extractAll hcs c hc)

/-- So does what a routine gives when it is called with values. -/
lemma Routine.keeps_invoke {r : Routine} {args : Args} (hr : Below n r.cells)
    (h : Below n args.cells) : (r.invoke args).Keeps n Value.cells := by
  refine (keeps_extractAll r.params h).bind fun cs m hnm hcs => ?_
  exact .bind (.lift (Routine.keeps_run (hr.mono hnm) hcs)) fun _ _ _ hc => .pure hc

/-! ## Conversions and stages -/

/-- The cells that a way of a value leads to. -/
def hopCells : Option (Value × Nat) → List CellId
  | some (v, _) => v.cells
  | none => []

section Convert

variable {edges : List Conversion}

/-- Sending a value along one edge keeps states closed. -/
lemma keeps_oneHop (hedges : ∀ c ∈ edges, Below n c.routine.cells) {v : Value}
    (hv : Below n v.cells) (t : Convention) : (oneHop edges v t).Keeps n hopCells := by
  unfold oneHop
  split
  · exact .pure hv
  · split
    · next o ho => exact .pure fun c hc => hv c (cells_boundInvoke? ho c hc)
    · split
      · next c hc =>
        have hargs : Below n (Args.cells [v]) := by simpa [Args.cells] using hv
        exact (Routine.keeps_invoke (hedges c (List.mem_of_find?_eq_some hc)) hargs).bind
          fun _ _ _ hout => .pure hout
      · exact .pure (.nil n)

/-- So does trying the edges one after the other as the last one of a longer way. -/
lemma keeps_through (hedges : ∀ c ∈ edges, Below n c.routine.cells) {v : Value}
    (hv : Below n v.cells) (t : Convention) :
    ∀ rest, (∀ c ∈ rest, c ∈ edges) → (through edges v t rest).Keeps n hopCells := by
  intro rest
  induction rest generalizing n with
  | nil => exact fun _ => .pure (.nil n)
  | cons e rest ih =>
    intro hrest
    have ih {m : Nat} (hnm : n ≤ m) : (through edges v t rest).Keeps m hopCells :=
      ih (fun c hc => (hedges c hc).mono hnm) (hv.mono hnm)
        fun c hc => hrest c (List.mem_cons_of_mem _ hc)
    have he := hedges e (hrest e List.mem_cons_self)
    have happroach : (approach edges v e).Keeps n hopCells := by
      unfold approach
      split
      · exact .pure hv
      · exact keeps_oneHop hedges hv _
    unfold through
    refine happroach.bind fun found m hnm hfound => ?_
    split
    · exact ih hnm
    · next staged pre =>
      have hargs : Below m (Args.cells [staged]) := by simpa [Args.cells, hopCells] using hfound
      refine (Routine.keeps_invoke (he.mono hnm) hargs).bind fun middle k hmk hmiddle => ?_
      refine (keeps_oneHop (fun c hc => (hedges c hc).mono (hnm.trans hmk)) hmiddle t).bind
        fun found l hkl hfound => ?_
      split
      · exact .pure hfound
      · exact ih (hnm.trans (hmk.trans hkl))

/-- A conversion leads to new components, or where the value and the edges lead. -/
lemma keeps_convert (hedges : ∀ c ∈ edges, Below n c.routine.cells) {v : Value}
    (hv : Below n v.cells) (t : Convention) : (convert edges v t).Keeps n Value.cells := by
  have hsearch : (search edges v t).Keeps n hopCells := by
    refine (keeps_oneHop hedges hv t).bind fun found m hnm hfound => ?_
    split
    · exact .pure hfound
    · exact (keeps_through hedges hv t edges fun _ h => h).mono hnm
  refine hsearch.bind fun found m hnm hfound => ?_
  split
  · exact .seq (.lift (.report _)) fun _ => .seq (.lift (.raise _ _)) fun _ => .pure hfound
  · exact .seq (.lift (.report _)) fun _ => .seq (.lift (.raise _ _)) fun _ => .throw _

end Convert

/-- In a closed state the edges of a registry lead only to what is there. -/
lemma keeps_convertIn (k : RegistryId) {v : Value} (hv : Below n v.cells) (t : Convention) :
    (convertIn k v t).Keeps n Value.cells :=
  .get_bind fun _ hs hn => keeps_convert (hs.registry k) (hv.mono hn) t

/-- A component that is made leads to what it was made from. -/
lemma ComponentType.keeps_make (t : ComponentType) {args : List Content}
    (h : Below n (args.flatMap Content.cells)) : (t.make args).Keeps n Instance.cells := by
  unfold ComponentType.make
  split
  · exact (keeps_hold h).bind fun _ _ _ hheld => (Engine.Keeps.logCall _).seq fun _ =>
      (Engine.Keeps.newCell hheld).bind fun _ _ _ hc => .pure hc
  · refine .pure ?_
    simp only [List.flatMap_cons, Content.cells, Below.append_iff] at h
    exact Below.append_iff.2 ⟨h.2.1, h.1⟩
  · exact .pure (.nil n)

/-- What a stage makes leads to new components, or where the stage and the next app lead. -/
lemma Stage.keeps_apply {st : Stage} {next : Value} (hst : Below n st.cells)
    (hnext : Below n next.cells) : (st.apply next).Keeps n Value.cells := by
  obtain ⟨hfactory, hargs⟩ := Below.append_iff.1 hst
  have hall : Below n (Args.cells (next :: st.args)) := Below.append_iff.2 ⟨hnext, hargs⟩
  unfold Stage.apply
  generalize st.factory = made at hfactory
  cases made with
  | callable r => exact Routine.keeps_invoke hfactory hall
  | told r component =>
    obtain ⟨hr, hcomponent⟩ := Below.append_iff.1 hfactory
    dsimp only
    rw [Assembly.discard_bind]
    exact (Routine.keeps_invoke hr hall).bind fun _ m hnm _ => .pure (hcomponent.mono hnm)
  | invoke r => exact Routine.keeps_invoke hfactory hall
  | construct t params =>
    exact (keeps_extractAll params hall).bind fun cs m _ hcs =>
      .bind (.lift (t.keeps_make hcs)) fun _ _ _ hi => .pure hi

namespace Builder

/-- Putting stages around an app keeps states closed. -/
lemma keeps_fold (k : RegistryId) {stages : List Stage} (hstages : ∀ st ∈ stages, Below n st.cells)
    {app : Value} (happ : Below n app.cells) : (fold k stages app).Keeps n Value.cells := by
  induction stages generalizing n app with
  | nil => exact .pure happ
  | cons st rest ih =>
    obtain ⟨hst, hrest⟩ := List.forall_mem_cons.1 hstages
    refine (keeps_convertIn k happ _).bind fun next m hnm hnext => ?_
    refine (Stage.keeps_apply (hst.mono hnm) hnext).bind fun made i hmi hmade => ?_
    refine (keeps_convertIn k hmade _).bind fun app j hij happ => ?_
    exact ih (fun st h => (hrest st h).mono (hnm.trans (hmi.trans hij))) happ

/-- A build leaves no loose ends, and the app that it gives leads only to what is there. -/
lemma keeps_buildValue (b : Builder) (hb : ∀ st ∈ b.stages, Below n st.cells) (t : Convention) :
    (b.buildValue t).Keeps n Value.cells := by
  refine .get_bind fun s hs hn => ?_
  have hterminal : Below s.cells.length (b.terminal s).cells := by
    unfold terminal
    cases hv : (s.bag b.properties).get? defaultAppKey with
    | none => exact .nil _
    | some v => exact (hs.bag _) _ v hv
  refine (keeps_fold _ (fun st h => (hb st (List.mem_reverse.1 h)).mono hn) hterminal).bind
    fun app m _ happ => (keeps_convertIn _ happ t).bind fun out k _ hout => ?_
  exact .seq (.lift (.report _)) fun _ => .seq (.lift (.raise _ _)) fun _ =>
    .seq (.lift (.raise _ _)) fun _ => .seq (.lift (.raise _ _)) fun _ =>
      .seq (.lift (.raise _ _)) fun _ => .pure hout

end Builder

end Pipework
