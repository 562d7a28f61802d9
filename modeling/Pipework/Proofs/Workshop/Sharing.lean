import Pipework.Proofs.Engine.Apart
import Pipework.Proofs.Workshop.Descent

set_option autoImplicit false

/-!
# What builders share

A branch and a clone share the property bag and the registry with the builder that they come from,
and a builder that is made anew has both for itself. Whether two builders share them can be found
out by storing something through one of them and looking for it through the other: they share one of
the two, and then both, exactly if they come from the same new builder. What is written through a
builder is seen by all builders that share with it, and makes no difference to any other builder.
The lists of stages are never shared.

## Main definitions

* `Write.apply` — what a write does to what builders see.
* `Workshop.SharesBag`, `Workshop.SharesRegistry` — builders through which the same is found.

## Main results

* `Workshop.sees_write_self`, `Workshop.sees_write_of_ne` — who sees a write.
* `Workshop.sharing_follows_descent` — who shares what, and who sees what.
-/

namespace Pipework

/-! ## Writes -/

namespace Write

/-- What a write does to the bag. -/
def onBag : Write → Bag → Bag
  | set key v, g => g.insert key v
  | remove key, g => g.erase key
  | register _, g => g

/-- What a write does to the registry. A value that cannot be registered changes nothing. -/
def onRegistry : Write → Registry → Registry
  | set _ _, g => g
  | remove _, g => g
  | register v, g =>
    match Conversion.ofValue v with
    | .ok c => g.add c
    | .error _ => g

/-- What a write does to what a builder sees. -/
def apply (x : Write) (g : Shared) : Shared := ⟨x.onBag g.bag, x.onRegistry g.registry⟩

/-- What a write through a builder does to the state, besides the report. -/
def change (x : Write) (b : Builder) (s : State) : State :=
  (s.updateBag b.properties x.onBag).updateRegistry b.conversions x.onRegistry

/-- A write that leaves the registry alone changes the bag only. -/
lemma change_of_onRegistry {x : Write} (h : x.onRegistry = id) (b : Builder) (s : State) :
    x.change b s = s.updateBag b.properties x.onBag := by
  rw [change, h, State.updateRegistry, List.modify_id]

/-- A write that leaves the bag alone changes the registry only. -/
lemma change_of_onBag {x : Write} (h : x.onBag = id) (b : Builder) (s : State) :
    x.change b s = s.updateRegistry b.conversions x.onRegistry := by
  rw [change, h, State.updateBag, List.modify_id]

/-- A write changes the bag and the registry of the builder and is reported at most. -/
lemma exec_run (x : Write) (b : Builder) (s : State) :
    ∃ r events, (x.run b).exec s = (r, { x.change b s with events := events }) := by
  cases x with
  | set key v =>
    rw [change_of_onRegistry rfl]
    exact ⟨_, _, rfl⟩
  | remove key =>
    rw [change_of_onRegistry rfl]
    exact ⟨_, _, rfl⟩
  | register v =>
    rw [change_of_onBag rfl]
    cases hv : Conversion.ofValue v with
    | ok c =>
      have honto : (register v).onRegistry = fun g => g.add c := by
        funext g
        rw [onRegistry, hv]
      rw [run, Assembly.exec_register_ok hv, honto]
      exact ⟨_, _, rfl⟩
    | error e =>
      have honto : (register v).onRegistry = id := by
        funext g
        rw [onRegistry, hv]
        rfl
      rw [run, Assembly.exec_register_error hv, honto, State.updateRegistry, List.modify_id]
      exact ⟨_, _, rfl⟩

variable {x : Write} {b : Builder} {s : State}

/-- The bag of the builder after a write. -/
lemma bag_change_self (h : b.properties < s.bags.length) :
    (x.change b s).bag b.properties = x.onBag (s.bag b.properties) := by
  rw [change, State.bag_updateRegistry, s.bag_updateBag_self _ h]

/-- Other bags do not change. -/
lemma bag_change_of_ne {p : BagId} (h : b.properties ≠ p) : (x.change b s).bag p = s.bag p := by
  rw [change, State.bag_updateRegistry, s.bag_updateBag_of_ne _ h]

/-- The registry of the builder after a write. -/
lemma registry_change_self (h : b.conversions < s.registries.length) :
    (x.change b s).registry b.conversions = x.onRegistry (s.registry b.conversions) :=
  (s.updateBag b.properties x.onBag).registry_updateRegistry_self _ h

/-- Other registries do not change. -/
lemma registry_change_of_ne {r : RegistryId} (h : b.conversions ≠ r) :
    (x.change b s).registry r = s.registry r := by
  rw [change, State.registry_updateRegistry_of_ne _ _ h, State.registry_updateBag]

/-- A write leaves everything alone but the bag and the registry of the builder. -/
lemma apart_change (x : Write) (b : Builder) (s : State) :
    s.Apart b.properties b.conversions (x.change b s) :=
  have hbag := State.Apart.updateBag_self s b.properties b.conversions x.onBag
  have hregistry := State.Apart.updateRegistry_self s b.properties b.conversions x.onRegistry
  { hbag with
    length_registries := hregistry.length_registries
    registries_eq := hregistry.registries_eq }

end Write

/-! ## What is seen of a write -/

namespace Workshop

variable {w : Workshop} {i j : Nat}

/-- A property that is stored through the builder at place `i` is found through the one at place
`j`, whatever it is. -/
def SharesBag (w : Workshop) (i j : Nat) : Prop :=
  ∀ key v, (((Act.call (.write i (.set key v))).run.exec w).2.sees j).bag.get? key = some v

/-- A conversion that is registered through the builder at place `i` is found through the one at
place `j`, whatever it is. -/
def SharesRegistry (w : Workshop) (i j : Nat) : Prop :=
  ∀ v c, Conversion.ofValue v = .ok c →
    (((Act.call (.write i (.register v))).run.exec w).2.sees j).registry.get? c.key = some c

/-- A write through a builder is reported at most, besides what it does to the state. -/
lemma exec_write (x : Write) (i : Nat) (w : Workshop) :
    ∃ r events, (Act.call (.write i x)).run.exec w = (r, { w with state :=
      { x.change (w.builder i) w.state with events := events } }) := by
  obtain ⟨r, events, hx⟩ := x.exec_run (w.builder i) w.state
  rw [Act.exec_call, Call.run, hx]
  exact ⟨r, events, rfl⟩

/-- What a builder sees after a write. -/
lemma sees_write (x : Write) (i : Nat) (w : Workshop) (j : Nat) :
    ((Act.call (.write i x)).run.exec w).2.sees j =
      ⟨(x.change (w.builder i) w.state).bag (w.builder j).properties,
        (x.change (w.builder i) w.state).registry (w.builder j).conversions⟩ := by
  obtain ⟨r, events, hx⟩ := exec_write x i w
  rw [hx]
  rfl

/-- Builders that share with the builder see the write. -/
lemma Formed.sees_write_self (h : w.Formed) (x : Write) (hi : i < w.members.length)
    (hj : j < w.members.length) (hsame : w.SameNew i j) :
    ((Act.call (.write i x)).run.exec w).2.sees j = x.apply (w.sees j) := by
  rw [sees_write, ← (h.sameNew_iff_bag hi hj).1 hsame, ← (h.sameNew_iff_registry hi hj).1 hsame,
    Write.bag_change_self (h.properties_lt hi), Write.registry_change_self (h.conversions_lt hi),
    (h.sameNew_iff_bag hi hj).1 hsame, (h.sameNew_iff_registry hi hj).1 hsame]
  rfl

/-- Builders with another bag find what they have found there. -/
lemma bag_write_of_ne (x : Write) (h : (w.builder i).properties ≠ (w.builder j).properties) :
    (((Act.call (.write i x)).run.exec w).2.sees j).bag = (w.sees j).bag := by
  rw [sees_write]
  exact Write.bag_change_of_ne h

/-- Builders with another registry find what they have found there. -/
lemma registry_write_of_ne (x : Write)
    (h : (w.builder i).conversions ≠ (w.builder j).conversions) :
    (((Act.call (.write i x)).run.exec w).2.sees j).registry = (w.sees j).registry := by
  rw [sees_write]
  exact Write.registry_change_of_ne h

/-- What is stored through a builder is found through those with the same bag, and through no other
one. -/
lemma sharesBag_iff (hlt : (w.builder i).properties < w.state.bags.length) :
    w.SharesBag i j ↔ (w.builder i).properties = (w.builder j).properties := by
  constructor
  · intro h
    by_contra hne
    -- two values that are stored under one key cannot both be found if neither write is seen
    have hfound (v : Value) : (w.sees j).bag.get? defaultAppKey = some v := by
      rw [← bag_write_of_ne (.set defaultAppKey v) hne]
      exact h defaultAppKey v
    cases (hfound (.callable .toFunc)).symm.trans (hfound (.callable .toObject))
  · intro h key v
    rw [sees_write, ← h, Write.bag_change_self hlt]
    exact (OrderedMap.get?_insert _ _ _ _).trans (if_pos rfl)

/-- The same for conversions and registries. -/
lemma sharesRegistry_iff (hlt : (w.builder i).conversions < w.state.registries.length) :
    w.SharesRegistry i j ↔ (w.builder i).conversions = (w.builder j).conversions := by
  constructor
  · intro h
    by_contra hne
    -- the same holds of two functions between the same types, with and without a side effect
    have hfound (writes : List (String × Expr)) :
        (w.sees j).registry.get? (.atom (.token .a), .atom (.token .b)) =
          some ⟨.atom (.token .a), .atom (.token .b),
            .func (.mk [.atom (.token .a)] (.token .b) "f" none [] writes) none⟩ := by
      have hc : Conversion.ofValue
          (.callable (.func (.mk [.atom (.token .a)] (.token .b) "f" none [] writes) none)) =
            .ok ⟨.atom (.token .a), .atom (.token .b), _⟩ := rfl
      rw [← registry_write_of_ne (.register _) hne]
      exact h _ _ hc
    cases (hfound []).symm.trans (hfound [("k", .mountType)])
  · intro h v c hc
    rw [sees_write, ← h, Write.registry_change_self hlt, Write.onRegistry, hc]
    exact (OrderedMap.get?_insert _ _ _ _).trans (if_pos rfl)

/-- A write leaves all lists of stages alone, and everything else but the bag and the registry of
its builder. -/
lemma apart_write (x : Write) (i : Nat) (w : Workshop) :
    ((Act.call (.write i x)).run.exec w).2.members = w.members ∧
      w.state.Apart (w.builder i).properties (w.builder i).conversions
        ((Act.call (.write i x)).run.exec w).2.state := by
  obtain ⟨r, events, hx⟩ := exec_write x i w
  rw [hx]
  exact ⟨rfl, { x.apart_change (w.builder i) w.state with }⟩

/-! ## What is seen of other steps -/

/-- Stages that are added to a builder are not seen. -/
lemma sees_put {b : Builder} (hb : b.branch = (w.builder i).branch) (j : Nat) :
    (w.put i b).sees j = w.sees j := by
  have hbag : ((w.put i b).builder j).properties = (w.builder j).properties := by
    rw [builder_eq_descent _ Builder.properties, builder_eq_descent w Builder.properties,
      descent_put (Builder.properties_of_branch_eq hb)]
  have hregistry : ((w.put i b).builder j).conversions = (w.builder j).conversions := by
    rw [builder_eq_descent _ Builder.conversions, builder_eq_descent w Builder.conversions,
      descent_put (Builder.conversions_of_branch_eq hb)]
  rw [sees, sees, hbag, hregistry]
  rfl

/-- Events and counters are not seen. -/
lemma sees_state {s : State} (hbags : s.bags = w.state.bags)
    (hregistries : s.registries = w.state.registries) (j : Nat) :
    ({ w with state := s } : Workshop).sees j = w.sees j := by
  rw [sees, sees, State.bag, State.bag, State.registry, State.registry, hbags, hregistries]
  rfl

/-- Adding a stage changes nothing that builders see. -/
lemma sees_add (i : Nat) (x : Addition) (w : Workshop) (j : Nat) :
    ((Act.add i x).run.exec w).2.sees j = w.sees j := by
  cases hx : x.resolve with
  | error e => rw [Act.exec_add_error hx]
  | ok st =>
    obtain ⟨events, hadd⟩ := Act.exec_add_ok hx i w
    rw [hadd]
    calc _ = _ := sees_put (by rfl) j
      _ = w.sees j := sees_state (by rfl) (by rfl) j

/-- A builder that is made anew has the next bag and the next registry, and no stages. -/
lemma builder_make_new (w : Workshop) :
    (Act.make.run.exec w).2.builder w.members.length =
      ⟨w.state.bags.length, w.state.registries.length, []⟩ :=
  builder_enter_self { w with state := _ } _

/-- A builder that is made anew has a bag and a registry for itself. -/
lemma sees_make_new (w : Workshop) :
    (Act.make.run.exec w).2.sees w.members.length =
      ⟨Builder.seededBag w.state.registries.length, .builtin⟩ := by
  have hbag : (Builder.make.exec w.state).2.bag w.state.bags.length =
      Builder.seededBag w.state.registries.length :=
    congrArg (·.getD .empty) (List.getElem?_concat_length (l := w.state.bags))
  have hregistry : (Builder.make.exec w.state).2.registry w.state.registries.length = .builtin :=
    congrArg (·.getD .empty) (List.getElem?_concat_length (l := w.state.registries))
  rw [sees, builder_make_new]
  exact congrArg₂ Shared.mk hbag hregistry

/-- It shares with no other builder, and changes nothing that these see. -/
lemma Formed.make_old (h : w.Formed) (hi : i < w.members.length) :
    ¬ (Act.make.run.exec w).2.SameNew i w.members.length ∧
      (Act.make.run.exec w).2.sees i = w.sees i := by
  have hproperties := h.properties_lt hi
  have hlength : (Act.make.run.exec w).2.members.length = w.members.length + 1 :=
    List.length_append
  have hold : (Act.make.run.exec w).2.builder i = w.builder i :=
    builder_enter_lt (w := { w with state := _ }) _ hi
  constructor
  · rw [h.make.sameNew_iff_bag (by omega) (by omega), builder_make_new, hold]
    exact Nat.ne_of_lt hproperties
  · have hbag : (Builder.make.exec w.state).2.bag (w.builder i).properties =
        w.state.bag (w.builder i).properties :=
      congrArg (·.getD .empty) (List.getElem?_append_left hproperties)
    have hregistry : (Builder.make.exec w.state).2.registry (w.builder i).conversions =
        w.state.registry (w.builder i).conversions :=
      congrArg (·.getD .empty) (List.getElem?_append_left (h.conversions_lt hi))
    rw [sees, hold]
    exact congrArg₂ Shared.mk hbag hregistry

/-- **Sharing follows descent.** In every workshop that a program leads to:

* Two builders share the property bag exactly if they share the registry, and exactly if they come
  from the same new builder.
* What is written through a builder is seen by all builders that share with it. It leaves all lists
  of stages alone, and nothing changes for other builders: they see what they saw, and convert and
  build the same. Calling the callable that registers in a registry does what a registration through
  a builder does.
* Adding a stage, or a branch that has been configured, changes no list but the one that it is added
  to, and nothing that any builder sees.
* A builder that is made anew and a branch start without stages, a clone starts with the stages of
  the builder that it comes from, and nothing else changes. The first comes from no other builder
  and has a bag, with the callable that registers in its own registry, and that registry for itself;
  the others come from the same new builder as the one that they are made from.
* Afterwards no program changes who shares what, or the list of a builder on which it does not work.

**Proof sketch.** Programs hand down bags and registries (`Reached.formed`), so that descent can be
read off either of them (`Formed.sameNew_iff_bag`, `Formed.sameNew_iff_registry`), and a write
changes one of each (`sharesBag_iff`, `sharesRegistry_iff`). Computations with other bags and
registries do the same in states that differ in those (`alike_convertIn`,
`Builder.alike_buildValue`). -/
theorem sharing_follows_descent (h : w.Reached) :
    (∀ i < w.members.length, ∀ j < w.members.length,
      (w.SharesBag i j ↔ w.SharesRegistry i j) ∧ (w.SharesBag i j ↔ w.SameNew i j) ∧
      ((w.builder i).sameBag (w.builder j) = true ↔ w.SameNew i j) ∧
      ((w.builder i).sameRegistry (w.builder j) = true ↔ w.SameNew i j)) ∧
    (∀ i < w.members.length, ∀ x : Write,
      let w' := ((Act.call (.write i x)).run.exec w).2
      w'.members = w.members ∧
      w.state.Apart (w.builder i).properties (w.builder i).conversions w'.state ∧
      (∀ v, ((Assembly.callRegister (w.builder i).conversions v).exec w.state).2 =
        ((Assembly.register (w.builder i).conversions v).exec w.state).2) ∧
      ∀ j < w.members.length,
        (w.SameNew i j → w.sees j = w.sees i ∧ w'.sees j = x.apply (w.sees i)) ∧
        (¬ w.SameNew i j → w'.sees j = w.sees j ∧
          (∀ v t, ((convertIn (w.builder j).conversions v t).exec w'.state).1 =
            ((convertIn (w.builder j).conversions v t).exec w.state).1) ∧
          (∀ t, (((w.builder j).buildValue t).exec w'.state).1 =
            (((w.builder j).buildValue t).exec w.state).1) ∧
          (∀ type, (((w.builder j).build type).exec w'.state).1 =
            (((w.builder j).build type).exec w.state).1) ∧
          ((w.builder j).buildApp.exec w'.state).1 = ((w.builder j).buildApp.exec w.state).1)) ∧
    (∀ i x j, ((Act.add i x).run.exec w).2.sees j = w.sees j ∧
      (j ≠ i → ((Act.add i x).run.exec w).2.members[j]? = w.members[j]?)) ∧
    (∀ i g conf, Gate.check g = .ok () → ∀ j, j ≠ i →
      ((Work.mount i g conf).exec w).2.members[j]? = (conf.exec (w.opened i)).2.members[j]?) ∧
    ((Act.make.run.exec w).2.members =
        w.members ++ [⟨⟨w.state.bags.length, w.state.registries.length, []⟩, none⟩] ∧
      (Act.make.run.exec w).2.sees w.members.length =
        ⟨Builder.seededBag w.state.registries.length, .builtin⟩ ∧
      ∀ i < w.members.length, ¬ (Act.make.run.exec w).2.SameNew i w.members.length ∧
        (Act.make.run.exec w).2.sees i = w.sees i) ∧
    (∀ i < w.members.length,
      (Act.branch i).run.exec w = (.ok (), w.opened i) ∧
      w.opened i = ⟨w.state, w.members ++
        [⟨⟨(w.builder i).properties, (w.builder i).conversions, []⟩, some i⟩]⟩ ∧
      (Act.clone i).run.exec w = (.ok (), w.cloned i) ∧
      w.cloned i = ⟨w.state, w.members ++ [⟨w.builder i, some i⟩]⟩ ∧
      (w.opened i).SameNew i w.members.length ∧ (w.cloned i).SameNew i w.members.length) ∧
    ∀ busy l w', Course busy w l w' →
      (∀ i < w.members.length, ∀ j < w.members.length, w'.SameNew i j ↔ w.SameNew i j) ∧
      ∀ j < w.members.length, j ∈ busy → w'.members[j]? = w.members[j]? := by
  have hformed := h.formed
  refine ⟨fun i hi j hj => ?_, fun i hi x => ?_,
    fun i x j => ⟨sees_add i x w j, Act.getElem?_add_ne x⟩,
    fun i g conf hg j hij => Work.getElem?_mount hg conf hij,
    ⟨rfl, sees_make_new w, fun i hi => hformed.make_old hi⟩,
    fun i hi => ⟨rfl, rfl, rfl, rfl, hformed.sameNew_derive hi rfl, hformed.sameNew_derive hi rfl⟩,
    fun busy l w' hcourse => ⟨fun i hi j hj => hformed.sameNew_course_iff hcourse hi hj,
      fun j hj hbusy => hcourse.extends.getElem?_eq hbusy hj⟩⟩
  · have hregistry := hformed.sameNew_iff_registry hi hj
    rw [sharesBag_iff (hformed.properties_lt hi), sharesRegistry_iff (hformed.conversions_lt hi),
      ← hformed.same_bag_iff_same_registry hi hj, ← hformed.sameNew_iff_bag hi hj,
      Builder.sameBag, Builder.sameRegistry, decide_eq_true_iff, decide_eq_true_iff, ← hregistry,
      ← hformed.sameNew_iff_bag hi hj]
    exact ⟨Iff.rfl, Iff.rfl, Iff.rfl, Iff.rfl⟩
  · obtain ⟨hmembers, hapart⟩ := apart_write x i w
    refine ⟨hmembers, hapart, fun v => by rw [Assembly.exec_callRegister], fun j hj => ?_⟩
    refine ⟨fun hsame => ?_, fun hnew => ?_⟩
    · have hsees : w.sees j = w.sees i := by
        rw [sees, sees, (hformed.sameNew_iff_bag hi hj).1 hsame,
          (hformed.sameNew_iff_registry hi hj).1 hsame]
      exact ⟨hsees, hsees ▸ hformed.sees_write_self x hi hj hsame⟩
    · have hbag : (w.builder i).properties ≠ (w.builder j).properties :=
        mt (hformed.sameNew_iff_bag hi hj).2 hnew
      have hregistry : (w.builder i).conversions ≠ (w.builder j).conversions :=
        mt (hformed.sameNew_iff_registry hi hj).2 hnew
      have hsees : ((Act.call (.write i x)).run.exec w).2.sees j = w.sees j :=
        congrArg₂ Shared.mk (bag_write_of_ne x hbag) (registry_write_of_ne x hregistry)
      exact ⟨hsees, fun v t => (alike_convertIn hregistry.symm v t _ _ hapart).1,
        fun t => (Builder.alike_buildValue hbag.symm hregistry.symm t _ _ hapart).1,
        fun type => (Builder.alike_build hbag.symm hregistry.symm type _ _ hapart).1,
        (Builder.alike_buildApp hbag.symm hregistry.symm _ _ hapart).1⟩

/-- Two new builders, and a branch of the first one: it shares with the first one, and the second
one does not. -/
theorem sharing_follows_descent_branch :
    (two.opened 0).SharesBag 2 0 ∧ (two.opened 0).SharesRegistry 2 0 ∧
      ¬ (two.opened 0).SharesBag 1 0 ∧ ¬ (two.opened 0).SharesRegistry 1 0 := by
  have hmade : Course [] empty (([] ++ Act.make.added) ++ Act.make.added) two :=
    .act (.act (.start _ _) .make nofun) .make nofun
  have hreached : (two.opened 0).Reached := .opened (.course .start hmade) (by decide)
  obtain ⟨hshares, -⟩ := sharing_follows_descent hreached
  obtain ⟨hregistry, hnew, hsame, -⟩ := hshares 2 (by decide) 0 (by decide)
  obtain ⟨hregistry', hnew', hsame', -⟩ := hshares 1 (by decide) 0 (by decide)
  have hbag := hnew.2 (hsame.1 rfl)
  have hbag' : ¬ (two.opened 0).SharesBag 1 0 := fun h =>
    absurd (hsame'.2 (hnew'.1 h)) (by decide)
  exact ⟨hbag, hregistry.1 hbag, hbag', fun h => hbag' (hregistry'.2 h)⟩

end Workshop

end Pipework
