import Pipework.Proofs.Engine.Passes
import Pipework.Proofs.Engine.Registers

set_option autoImplicit false

/-!
# States that differ in one bag and one registry

A property bag is looked at only by the builds of the builders that have it, and a registry by their
conversions and builds. Everything else does the same, whatever the two hold: calls, and what is
converted and built with other bags and registries.

## Main definitions

* `State.Apart` — two states that differ in one bag and one registry at most.
* `Engine.Alike` — a computation that does the same from two such states.

## Main results

* `Engine.alike_passesCalls` — calls do the same.
* `alike_convertIn`, `Builder.alike_buildApp` — so do conversions and builds with other bags and
  registries.
-/

namespace Pipework

/-- The two states differ in the bag `p` and the registry `r`, and in what has been reported, at
most. -/
structure State.Apart (p : BagId) (r : RegistryId) (s s' : State) : Prop where
  length_bags : s'.bags.length = s.bags.length
  length_registries : s'.registries.length = s.registries.length
  bags_eq : ∀ q, q ≠ p → s'.bags[q]? = s.bags[q]?
  registries_eq : ∀ k, k ≠ r → s'.registries[k]? = s.registries[k]?
  cells : s'.cells = s.cells
  vars : s'.vars = s.vars
  calls : s'.calls = s.calls
  tally : s'.tally = s.tally
  told : s'.told = s.told

/-- From two states that differ in the bag `p` and the registry `r`, the computation has the same
result and leaves states that differ in these again. -/
def Engine.Alike (p : BagId) (r : RegistryId) {α : Type} (x : Engine α) : Prop :=
  ∀ s s', s.Apart p r s' → (x.exec s').1 = (x.exec s).1 ∧ (x.exec s).2.Apart p r (x.exec s').2

variable {p : BagId} {r : RegistryId}

namespace State.Apart

variable {s s' : State}

/-- A state differs from itself in nothing. -/
lemma refl (p : BagId) (r : RegistryId) (s : State) : s.Apart p r s :=
  ⟨rfl, rfl, fun _ _ => rfl, fun _ _ => rfl, rfl, rfl, rfl, rfl, rfl⟩

/-- Another bag is the same in both states. -/
lemma bag_eq (h : s.Apart p r s') {q : BagId} (hq : q ≠ p) : s'.bag q = s.bag q := by
  rw [State.bag, State.bag, h.bags_eq q hq]

/-- Another registry is the same in both states. -/
lemma registry_eq (h : s.Apart p r s') {k : RegistryId} (hk : k ≠ r) :
    s'.registry k = s.registry k := by
  rw [State.registry, State.registry, h.registries_eq k hk]

/-- What changes about the bag itself leads to a state that differs in it. -/
lemma updateBag_self (s : State) (p : BagId) (r : RegistryId) (u : Bag → Bag) :
    s.Apart p r (s.updateBag p u) :=
  { refl p r s with
    length_bags := s.length_bags_updateBag p u
    bags_eq := fun _ hq => List.getElem?_modify_ne _ _ hq.symm }

/-- What changes about the registry itself leads to a state that differs in it. -/
lemma updateRegistry_self (s : State) (p : BagId) (r : RegistryId) (u : Registry → Registry) :
    s.Apart p r (s.updateRegistry r u) :=
  { refl p r s with
    length_registries := s.length_registries_updateRegistry r u
    registries_eq := fun _ hk => List.getElem?_modify_ne _ _ hk.symm }

/-- The same change to a bag in both states. -/
lemma updateBag (h : s.Apart p r s') (q : BagId) (u : Bag → Bag) :
    (s.updateBag q u).Apart p r (s'.updateBag q u) where
  __ := h
  length_bags := by rw [s.length_bags_updateBag, s'.length_bags_updateBag, h.length_bags]
  bags_eq k hk := by
    simp only [State.updateBag, List.getElem?_modify, h.bags_eq k hk]

/-- The same change to a registry in both states. -/
lemma updateRegistry (h : s.Apart p r s') (q : RegistryId) (u : Registry → Registry) :
    (s.updateRegistry q u).Apart p r (s'.updateRegistry q u) where
  __ := h
  length_registries := by
    rw [s.length_registries_updateRegistry, s'.length_registries_updateRegistry,
      h.length_registries]
  registries_eq k hk := by
    simp only [State.updateRegistry, List.getElem?_modify, h.registries_eq k hk]

end State.Apart

/-! ## Sequences and calls -/

namespace Engine

/-- Doing the same passes through sequences. -/
lemma alike_passes (p : BagId) (r : RegistryId) : Engine.Passes fun _ x => Engine.Alike p r x where
  pure _ _ _ h := ⟨rfl, h⟩
  bind {α β x g} hx hg s s' h := by
    obtain ⟨hresult, hapart⟩ := hx s s' h
    rw [exec_bind, exec_bind, hresult]
    exact hg _ _ _ hapart

/-- A computation that begins by looking at the state does the same if it sees the same. -/
lemma Alike.get_bind {α : Type} {g : State → Engine α}
    (hg : ∀ s s', s.Apart p r s' → g s' = g s) (h : ∀ s, (g s).Alike p r) :
    Engine.Alike p r (get >>= g) := by
  intro s s' hs
  rw [exec_bind, exec_bind, exec_get, exec_get]
  dsimp only
  rw [hg s s' hs]
  exact h s s s' hs

/-- The same for a computation that may fail. -/
lemma Alike.assembly_get_bind {α : Type} {g : State → Assembly α}
    (hg : ∀ s s', s.Apart p r s' → g s' = g s) (h : ∀ s, Engine.Alike p r (g s).run) :
    Engine.Alike p r (get >>= g : Assembly α).run :=
  .get_bind (g := fun s => (g s).run) (fun s s' hs => congrArg ExceptT.run (hg s s' hs)) h

/-- Evaluations do the same, because they look at no bag and at no registry. -/
lemma alike_passesEval (p : BagId) (r : RegistryId) :
    Engine.PassesEval fun _ x => Engine.Alike p r x where
  __ := alike_passes p r
  observe hg h := .get_bind (fun s s' hs => hg s' s hs.cells hs.vars) h
  newCell entries s s' h := by
    rw [exec_newCell, exec_newCell]
    exact ⟨congrArg List.length h.cells, { h with cells := congrArg (· ++ [entries]) h.cells }⟩

/-- A change to a registry. -/
lemma alike_updateRegistry (k : RegistryId) (u : Registry → Registry) :
    Engine.Alike p r (modify fun s => s.updateRegistry k u) := by
  intro s s' h
  exact ⟨rfl, h.updateRegistry k u⟩

/-- Reports do the same. -/
lemma alike_report (p : BagId) (r : RegistryId) (e : Event) : (report e).Alike p r := by
  intro s s' h
  exact ⟨rfl, { h with }⟩

/-- Counting does the same. -/
lemma alike_raise (p : BagId) (r : RegistryId) (c : Counter) (n : Nat) : (raise c n).Alike p r := by
  intro s s' h
  exact ⟨rfl, { h with tally := congrArg (·.raise c n) h.tally }⟩

/-- Writing to the call log does the same. -/
lemma alike_logCall (p : BagId) (r : RegistryId) (line : String) : (logCall line).Alike p r := by
  intro s s' h
  exact ⟨rfl, { h with calls := congrArg (· ++ [line]) h.calls }⟩

/-- Adding an edge to any registry does the same. -/
lemma alike_addConversion (k : RegistryId) (c : Conversion) : (addConversion k c).Alike p r :=
  (alike_passes p r).bind (alike_report p r _) fun _ => alike_updateRegistry k _

/-- Calls do the same, whatever the bag and the registry hold. -/
lemma alike_passesCalls (p : BagId) (r : RegistryId) :
    Engine.PassesCalls fun _ x => Engine.Alike p r x where
  __ := alike_passesEval p r
  effects g trace := by
    have hpasses := alike_passes p r
    refine hpasses.bind (alike_logCall p r trace) fun _ =>
      hpasses.bind (hpasses.forM _ fun h => ?_) fun _ => hpasses.forM _ fun w =>
        hpasses.bind (w.2.passes_eval (alike_passesEval p r)) fun v => ?_
    · split
      · exact alike_addConversion _ _
      · exact hpasses.pure _
    · exact fun s s' h => ⟨rfl, h.updateBag _ _⟩
  register k v := by
    unfold Assembly.register
    cases Conversion.ofValue v with
    | ok c => exact (alike_passes p r).lift (alike_addConversion k c)
    | error e => exact (alike_passes p r).throw e
  logCall := alike_logCall p r
  setCell c entries s s' h := ⟨rfl, { h with
    cells := congrArg (·.set c entries) h.cells
    told := congrArg (· ++ [c]) h.told }⟩

end Engine

/-! ## Conversions and builds with other bags and registries -/

/-- Conversions in other registries do the same. -/
lemma alike_convertIn {k : RegistryId} (hk : k ≠ r) (v : Value) (t : Convention) :
    Engine.Alike p r (convertIn k v t).run :=
  .assembly_get_bind (fun s s' hs => by rw [hs.registry_eq hk]) fun s =>
    passes_convert (Engine.alike_passes p r) (Engine.alike_report p r) (Engine.alike_raise p r)
      (fun c _ v => c.routine.passes_invoke (Engine.alike_passesCalls p r) [v]) v t

namespace Builder

variable {b : Builder} (hbag : b.properties ≠ p) (hregistry : b.conversions ≠ r)
include hbag hregistry

/-- Builds with other bags and registries do the same. -/
lemma alike_buildValue (t : Convention) : Engine.Alike p r (b.buildValue t).run := by
  refine .assembly_get_bind (fun s s' hs => ?_) fun s =>
    passes_assemble (Engine.alike_passes p r) (Engine.alike_report p r) (Engine.alike_raise p r)
      (alike_convertIn hregistry)
      (fun st v => st.passes_apply (Engine.alike_passesCalls p r) v) b.stages t
      (b.terminal s)
  have hterminal : b.terminal s' = b.terminal s := by
    rw [terminal, terminal, hs.bag_eq hbag]
  rw [hterminal]

/-- So do builds of values of a type. -/
lemma alike_build (type : Shape) : Engine.Alike p r (b.build type).run :=
  passes_build (Engine.alike_passes p r) (alike_buildValue hbag hregistry _)

/-- Builds do the same, whatever another bag and another registry hold. -/
lemma alike_buildApp : Engine.Alike p r b.buildApp.run :=
  passes_buildApp (Engine.alike_passes p r) (alike_build hbag hregistry _)

end Builder

end Pipework
