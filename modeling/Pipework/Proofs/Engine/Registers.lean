import Pipework.Proofs.Conversion.Registration
import Pipework.Proofs.Engine.Exec

set_option autoImplicit false

/-!
# Registrations between two states

Every registration is reported, and the registries of a state are those of an earlier one with the
registrations in between added in order.

## Main definitions

* `Registration` — a conversion and the registry that it is added to.
* `State.Registers` — the registrations that lead from one state to another.

## Main results

* `Assembly.exec_register_ok`, `Assembly.exec_register_error` — one registration.
* `State.Registers.trans` — registrations follow one another.
-/

namespace Pipework

/-- Whether an event tells of a new conversion. -/
def Event.isRegistration : Event → Bool
  | .registered .. => true
  | _ => false

/-- How many conversions have been registered, as far as has been reported. -/
def State.registrations (s : State) : Nat := s.events.countP Event.isRegistration

/-- A conversion and the registry that it is added to. -/
structure Registration where
  registry : RegistryId
  conversion : Conversion

namespace Registration

/-- The event that tells of a registration. -/
def event (x : Registration) : Event := .registered x.conversion.source x.conversion.target

/-- The conversions that some registrations add to a registry. -/
def inRegistry (r : RegistryId) (l : List Registration) : List Conversion :=
  (l.filter fun x => x.registry = r).map conversion

/-- Registrations one after the other add what both add. -/
@[simp] lemma inRegistry_append (r : RegistryId) (l l' : List Registration) :
    inRegistry r (l ++ l') = inRegistry r l ++ inRegistry r l' := by
  simp [inRegistry]

/-- A registration adds its conversion to its own registry. -/
lemma inRegistry_singleton_self (r : RegistryId) (c : Conversion) :
    inRegistry r [⟨r, c⟩] = [c] := by
  simp [inRegistry]

/-- A registration adds nothing to another registry. -/
lemma inRegistry_singleton_of_ne {r k : RegistryId} (h : r ≠ k) (c : Conversion) :
    inRegistry k [⟨r, c⟩] = [] := by
  simp [inRegistry, h]

end Registration

/-! ## Bags and registries -/

namespace State

/-- What changes about one registry leaves the others alone. -/
lemma registry_updateRegistry_of_ne (s : State) {r k : RegistryId} (u : Registry → Registry)
    (h : r ≠ k) : (s.updateRegistry r u).registry k = s.registry k := by
  simp [registry, updateRegistry, h]

/-- A registry that is there is changed. -/
lemma registry_updateRegistry_self (s : State) {r : RegistryId} (u : Registry → Registry)
    (h : r < s.registries.length) : (s.updateRegistry r u).registry r = u (s.registry r) := by
  simp [registry, updateRegistry, h]

/-- What changes about one bag leaves the others alone. -/
lemma bag_updateBag_of_ne (s : State) {p q : BagId} (u : Bag → Bag) (h : p ≠ q) :
    (s.updateBag p u).bag q = s.bag q := by
  simp [bag, updateBag, h]

/-- A bag that is there is changed. -/
lemma bag_updateBag_self (s : State) {p : BagId} (u : Bag → Bag) (h : p < s.bags.length) :
    (s.updateBag p u).bag p = u (s.bag p) := by
  simp [bag, updateBag, h]

/-- What changes about a bag leaves the registries alone. -/
@[simp] lemma registry_updateBag (s : State) (p : BagId) (u : Bag → Bag) (r : RegistryId) :
    (s.updateBag p u).registry r = s.registry r := rfl

/-- What changes about a registry leaves the bags alone. -/
@[simp] lemma bag_updateRegistry (s : State) (r : RegistryId) (u : Registry → Registry)
    (p : BagId) : (s.updateRegistry r u).bag p = s.bag p := rfl

/-- After a change to one registry, every registry is what it was or has been changed. -/
lemma registry_updateRegistry_eq_or (s : State) (r k : RegistryId) (u : Registry → Registry) :
    (s.updateRegistry r u).registry k = s.registry k ∨
      (s.updateRegistry r u).registry k = u (s.registry k) := by
  by_cases h : r = k
  · subst h
    obtain hlt | hle := Nat.lt_or_ge r s.registries.length
    · exact .inr (s.registry_updateRegistry_self u hlt)
    · left
      simp [registry, updateRegistry, hle]
  · exact .inl (s.registry_updateRegistry_of_ne u h)

/-- After a change to one bag, every bag is what it was or has been changed. -/
lemma bag_updateBag_eq_or (s : State) (p q : BagId) (u : Bag → Bag) :
    (s.updateBag p u).bag q = s.bag q ∨ (s.updateBag p u).bag q = u (s.bag q) := by
  by_cases h : p = q
  · subst h
    obtain hlt | hle := Nat.lt_or_ge p s.bags.length
    · exact .inr (s.bag_updateBag_self u hlt)
    · left
      simp [bag, updateBag, hle]
  · exact .inl (s.bag_updateBag_of_ne u h)

/-- Two changes to one bag are one change. -/
lemma updateBag_updateBag (s : State) (p : BagId) (u v : Bag → Bag) :
    (s.updateBag p u).updateBag p v = s.updateBag p fun m => v (u m) := by
  simp only [updateBag, List.modify_modify_eq, Function.comp_def]

/-- A change to one bag makes no bag. -/
@[simp] lemma length_bags_updateBag (s : State) (p : BagId) (u : Bag → Bag) :
    (s.updateBag p u).bags.length = s.bags.length := by
  simp [updateBag]

/-- A change to one registry makes no registry. -/
@[simp] lemma length_registries_updateRegistry (s : State) (r : RegistryId)
    (u : Registry → Registry) :
    (s.updateRegistry r u).registries.length = s.registries.length := by
  simp [updateRegistry]

/-- A registry that does not exist has nothing. -/
lemma registry_of_length_le {s : State} {r : RegistryId} (h : s.registries.length ≤ r) :
    s.registry r = .empty := by
  simp [registry, h]

end State

/-! ## Registrations -/

/-- The registrations `l` lead from `s` to `s'`: they are registrations of values that can be
registered, they have been reported in this order and no others have, and the registries of `s'` are
those of `s` with the registered conversions. -/
structure State.Registers (l : List Registration) (s s' : State) : Prop where
  exists_value : ∀ x ∈ l, ∃ v, Conversion.ofValue v = .ok x.conversion
  length_bags : s'.bags.length = s.bags.length
  length_registries : s'.registries.length = s.registries.length
  events_eq : s'.events.filter Event.isRegistration =
    s.events.filter Event.isRegistration ++ l.map Registration.event
  registry_eq : ∀ r < s.registries.length,
    s'.registry r = (s.registry r).addAll (Registration.inRegistry r l)

namespace State.Registers

variable {l l' : List Registration} {s s₁ s' : State}

/-- A step that makes no bag, and leaves the registries and the reports of registrations alone. -/
lemma of_eq (hbags : s'.bags.length = s.bags.length) (hregistries : s'.registries = s.registries)
    (hevents : s'.events.filter Event.isRegistration = s.events.filter Event.isRegistration) :
    Registers [] s s' where
  exists_value := nofun
  length_bags := hbags
  length_registries := by rw [hregistries]
  events_eq := by simp [hevents]
  registry_eq r _ := by
    rw [State.registry, State.registry, hregistries]
    rfl

/-- Nothing has been registered. -/
lemma refl (s : State) : Registers [] s s := .of_eq rfl rfl rfl

/-- What is done to a bag registers nothing. -/
lemma updateBag (s : State) (p : BagId) (u : Bag → Bag) : Registers [] s (s.updateBag p u) :=
  .of_eq (s.length_bags_updateBag p u) rfl rfl

/-- Registrations follow one another. -/
lemma trans (h : Registers l s s₁) (h' : Registers l' s₁ s') : Registers (l ++ l') s s' where
  exists_value x hx := (List.mem_append.1 hx).elim (h.exists_value x) (h'.exists_value x)
  length_bags := h'.length_bags.trans h.length_bags
  length_registries := h'.length_registries.trans h.length_registries
  events_eq := by rw [h'.events_eq, h.events_eq, List.map_append, List.append_assoc]
  registry_eq r hr := by
    rw [h'.registry_eq r (h.length_registries ▸ hr), h.registry_eq r hr,
      Registration.inRegistry_append, Registry.addAll_append]

/-- The number of reports is that of the registrations. -/
lemma registrations_eq (h : Registers l s s') : s'.registrations = s.registrations + l.length := by
  have hevent : ∀ x : Registration, x.event.isRegistration = true := fun _ => rfl
  rw [State.registrations, State.registrations, List.countP_eq_length_filter,
    List.countP_eq_length_filter, h.events_eq, List.length_append, List.length_map]

/-- Without a report no registry changes. -/
lemma registry_eq_of_quiet (h : Registers l s s') (hquiet : s'.registrations = s.registrations)
    (r : RegistryId) : s'.registry r = s.registry r := by
  have hlength := h.registrations_eq
  obtain rfl : l = [] := List.eq_nil_of_length_eq_zero (by omega)
  by_cases hr : r < s.registries.length
  · exact h.registry_eq r hr
  · rw [State.registry_of_length_le (Nat.not_lt.1 hr),
      State.registry_of_length_le (h.length_registries ▸ Nat.not_lt.1 hr)]

/-- What is registered stays among the edges, up to registrations between the same types. -/
lemma exists_edge {r : RegistryId} (h : Registers l s s₁) (h' : Registers l' s₁ s')
    (hr : r < s.registries.length) {c : Conversion} (hc : c ∈ Registration.inRegistry r l) :
    ∃ d ∈ (s'.registry r).edges,
      Conversion.last? (Registration.inRegistry r (l ++ l')) c.key = some d := by
  have hmem : c ∈ Registration.inRegistry r (l ++ l') := by
    rw [Registration.inRegistry_append]
    exact List.mem_append_left _ hc
  rw [(h.trans h').registry_eq r hr]
  exact Registry.exists_edge_of_mem _ hmem

end State.Registers

/-- What is registered is reported, and added to the registry. -/
lemma Engine.registers_addConversion (r : RegistryId) {c : Conversion}
    (hc : ∃ v, Conversion.ofValue v = .ok c) (s : State) :
    State.Registers [⟨r, c⟩] s ((Engine.addConversion r c).exec s).2 where
  exists_value := by simpa using hc
  length_bags := rfl
  length_registries := by simp [Engine.addConversion]
  events_eq := by
    simp [Engine.addConversion, State.updateRegistry, List.filter_append, Event.isRegistration,
      Registration.event]
  registry_eq k hk := by
    by_cases h : r = k
    · subst h
      rw [Registration.inRegistry_singleton_self]
      exact State.registry_updateRegistry_self _ _ hk
    · rw [Registration.inRegistry_singleton_of_ne h]
      exact State.registry_updateRegistry_of_ne _ _ h

namespace Assembly

variable {r : RegistryId} {v : Value} {s : State}

/-- A value that can be registered is registered. -/
lemma exec_register_ok {c : Conversion} (h : Conversion.ofValue v = .ok c) :
    (register r v).exec s = (.ok (), ((Engine.addConversion r c).exec s).2) := by
  rw [register, h, exec_bind_ok (exec_ofExcept _ s)]
  rfl

/-- A value that cannot be registered changes nothing. -/
lemma exec_register_error {e : BuildError} (h : Conversion.ofValue v = .error e) :
    (register r v).exec s = (.error e, s) := by
  rw [register, h, exec_bind_error (exec_ofExcept _ s)]

end Assembly

end Pipework
