import Mathlib.Order.Bounds.Basic
import Pipework.Proofs.OrderedMap

set_option autoImplicit false

/-!
# Maps by their history

What a map holds after a list of changes, each of which stores a value under a key or removes a key.
A key is there if its last change has stored a value, and it has that value. It has the place of the
latest change that has stored a value while the key was not there: storing once more keeps the
place, removing a key moves no other one, and a key that comes back comes last.

## Main definitions

* `OrderedMap.Holds`, `OrderedMap.Entered` — the value and the place of a key, from a history.
* `OrderedMap.Placed` — keys in the order of their places.
* `OrderedMap.change` — one change of a map, by storing or removing.
* `OrderedMap.Recalls` — a map holds what a history says.

## Main results

* `OrderedMap.changes_change` — what one change does.
* `OrderedMap.Recalls.foldl` — changes carry a map along with its history.
-/

namespace Pipework

/-! ## Histories -/

namespace OrderedMap

variable {κ α : Type}

/-- The last change of `k` in a history stores `a`. -/
def Holds (h : List (κ × Option α)) (k : κ) (a : α) : Prop :=
  ∃ before after, h = before ++ (k, some a) :: after ∧ ∀ c ∈ after, c.1 ≠ k

/-- A key is there after a history. -/
def Present (h : List (κ × Option α)) (k : κ) : Prop := ∃ a, Holds h k a

/-- The change at `i` stores a value under a key that is not there. -/
def Enters (h : List (κ × Option α)) (k : κ) (i : Nat) : Prop :=
  (∃ a, h[i]? = some (k, some a)) ∧ ¬Present (h.take i) k

/-- The change at `i` is the latest one that stores a value under a key while it is not there. -/
def Entered (h : List (κ × Option α)) (k : κ) (i : Nat) : Prop :=
  IsGreatest {i | Enters h k i} i

section Concat

variable {h : List (κ × Option α)} {c : κ × Option α} {k : κ} {a : α} {i : Nat}

/-- At first no key is there. -/
@[simp] lemma not_present_nil : ¬Present ([] : List (κ × Option α)) k := by
  rintro ⟨a, before, after, h, -⟩
  simp at h

/-- The last change decides about its own key and leaves the others alone. -/
lemma holds_concat :
    Holds (h ++ [c]) k a ↔ c.1 = k ∧ c.2 = some a ∨ c.1 ≠ k ∧ Holds h k a := by
  constructor
  · rintro ⟨before, after, hsplit, hafter⟩
    rcases List.eq_nil_or_concat after with rfl | ⟨after, d, rfl⟩
    · obtain ⟨-, hc⟩ := List.append_inj' hsplit rfl
      obtain rfl : c = (k, some a) := List.singleton_inj.1 hc
      exact .inl ⟨rfl, rfl⟩
    · have hsplit : h ++ [c] = (before ++ (k, some a) :: after) ++ [d] := by simpa using hsplit
      obtain ⟨hh, hc⟩ := List.append_inj' hsplit rfl
      obtain rfl : c = d := List.singleton_inj.1 hc
      exact .inr ⟨hafter c (by simp), before, after, hh, fun c hc => hafter c (by simp [hc])⟩
  · rintro (⟨rfl, ha⟩ | ⟨hk, before, after, rfl, hafter⟩)
    · exact ⟨h, [], by rw [← ha], nofun⟩
    · refine ⟨before, after ++ [c], by simp, fun d hd => ?_⟩
      rcases List.mem_append.1 hd with hd | hd
      · exact hafter d hd
      · exact List.mem_singleton.1 hd ▸ hk

/-- A key enters by one of the changes. -/
lemma Enters.lt_length (henters : Enters h k i) : i < h.length := by
  obtain ⟨⟨a, ha⟩, -⟩ := henters
  exact (List.getElem?_eq_some_iff.1 ha).1

/-- What enters before the last change does so whatever that is; the last change itself enters its
key by storing a value if the key has not been there. -/
lemma enters_concat : Enters (h ++ [c]) k i ↔
    Enters h k i ∨ i = h.length ∧ c.1 = k ∧ c.2.isSome = true ∧ ¬Present h k := by
  rcases Nat.lt_trichotomy i h.length with hi | rfl | hi
  · have htake : (h ++ [c]).take i = h.take i := List.take_append_of_le_length hi.le
    simp only [Enters, List.getElem?_append_left hi, htake, hi.ne, false_and, or_false]
  · have hlast : (∃ a, c = (k, some a)) ↔ c.1 = k ∧ c.2.isSome = true := by
      rw [Option.isSome_iff_exists]
      constructor
      · rintro ⟨a, rfl⟩
        exact ⟨rfl, a, rfl⟩
      · rintro ⟨rfl, a, ha⟩
        exact ⟨a, by rw [← ha]⟩
    have hnot : ¬Enters h k h.length := fun henters => Nat.lt_irrefl _ henters.lt_length
    simp [Enters, hlast, and_assoc] at hnot ⊢
  · have hnot : ¬Enters h k i := fun henters => Nat.lt_asymm hi henters.lt_length
    have hnot' : ¬Enters (h ++ [c]) k i := fun henters => by
      have hlt := henters.lt_length
      rw [List.length_append, List.length_singleton] at hlt
      omega
    simp [hnot, hnot', hi.ne']

/-- A key that is there, or another one, keeps the place where it has entered. -/
lemma entered_concat_of_not (hc : ¬(c.1 = k ∧ c.2.isSome = true ∧ ¬Present h k)) :
    Entered (h ++ [c]) k i ↔ Entered h k i := by
  simp only [Entered, enters_concat, hc, and_false, or_false]

/-- A key that was not there enters last. -/
lemma entered_concat_self (hk : ¬Present h k) : Entered (h ++ [(k, some a)]) k h.length :=
  ⟨enters_concat.2 (.inr ⟨rfl, rfl, rfl, hk⟩), fun _ henters => by
    have hlt := Enters.lt_length henters
    rw [List.length_append, List.length_singleton] at hlt
    exact Nat.le_of_lt_succ hlt⟩

end Concat

/-! ## Places -/

/-- The keys of a list have entered, each of them before those behind it. -/
structure Placed (h : List (κ × Option α)) (l : List κ) : Prop where
  exists_entered : ∀ k ∈ l, ∃ i, Entered h k i
  ordered : l.Pairwise fun k k' => ∃ i j, Entered h k i ∧ Entered h k' j ∧ i < j

namespace Placed

variable {h : List (κ × Option α)} {l l' : List κ} {k : κ}

/-- Keys stay in order when some are left out. -/
lemma sublist (hl : Placed h l) (hsub : l'.Sublist l) : Placed h l' :=
  ⟨fun k hk => hl.exists_entered k (hsub.subset hk), hl.ordered.sublist hsub⟩

/-- Keys that are there keep their places, whatever the next change is. -/
lemma later (hl : Placed h l) (hthere : ∀ k ∈ l, Present h k) (c : κ × Option α) :
    Placed (h ++ [c]) l := by
  have hplace (k : κ) (hk : k ∈ l) (i : Nat) : Entered (h ++ [c]) k i ↔ Entered h k i :=
    entered_concat_of_not fun hc => hc.2.2 (hthere k hk)
  constructor
  · intro k hk
    simpa only [hplace k hk] using hl.exists_entered k hk
  · exact hl.ordered.imp_of_mem fun hk hk' => by
      simp only [hplace _ hk, hplace _ hk', imp_self]

/-- A key that enters comes behind those that are there. -/
lemma enter (hl : Placed h l) (hthere : ∀ k ∈ l, Present h k) (hk : ¬Present h k) (a : α) :
    Placed (h ++ [(k, some a)]) (l ++ [k]) := by
  have hself : Entered (h ++ [(k, some a)]) k h.length := entered_concat_self hk
  have hlater := hl.later hthere (k, some a)
  constructor
  · intro k' hk'
    rcases List.mem_append.1 hk' with hk' | hk'
    · exact hlater.exists_entered k' hk'
    · obtain rfl := List.mem_singleton.1 hk'
      exact ⟨_, hself⟩
  · refine List.pairwise_append.2 ⟨hlater.ordered, List.pairwise_singleton _ _, ?_⟩
    intro k₁ hk₁ k₂ hk₂
    obtain rfl := List.mem_singleton.1 hk₂
    obtain ⟨i, hi⟩ := hl.exists_entered k₁ hk₁
    have hstays : Entered (h ++ [(k₂, some a)]) k₁ i :=
      (entered_concat_of_not fun hc => hc.2.2 (hthere k₁ hk₁)).2 hi
    exact ⟨i, _, hstays, hself, hi.1.lt_length⟩

end Placed

/-! ## Maps with a history -/

variable [DecidableEq κ]

/-- Stores a value under a key, or removes the key. -/
def change (m : OrderedMap κ α) (c : κ × Option α) : OrderedMap κ α :=
  match c.2 with
  | some a => m.insert c.1 a
  | none => m.erase c.1

/-- What one change does to a map. Its key gets the value and no other key is touched. A key that is
there keeps its place, a new one comes last, and one that is removed leaves the others in order. -/
structure Changes (m : OrderedMap κ α) (c : κ × Option α) (m' : OrderedMap κ α) : Prop where
  get?_self : m'.get? c.1 = c.2
  get?_other : ∀ k, k ≠ c.1 → m'.get? k = m.get? k
  keys_eq : m'.keys =
    if c.2.isSome then if c.1 ∈ m.keys then m.keys else m.keys ++ [c.1]
    else m.keys.filter fun k => k ≠ c.1

/-- A change does what is said of changes. -/
lemma changes_change (m : OrderedMap κ α) (c : κ × Option α) : m.Changes c (m.change c) := by
  obtain ⟨k, a | a⟩ := c
  · exact ⟨by simp [change, get?_erase], fun x hx => by simp [change, get?_erase, hx],
      m.keys_erase k⟩
  · exact ⟨by simp [change, get?_insert], fun x hx => by simp [change, get?_insert, hx],
      m.keys_insert k a⟩

/-- A map holds what a history says: the keys are those that are there, each of them once, in the
order in which they have entered, and each has the value that its last change has stored. -/
structure Recalls (m : OrderedMap κ α) (h : List (κ × Option α)) : Prop where
  nodup : m.keys.Nodup
  mem_keys_iff : ∀ k, k ∈ m.keys ↔ Present h k
  placed : Placed h m.keys
  get?_eq_some_iff : ∀ k a, m.get? k = some a ↔ Holds h k a

namespace Recalls

variable {m : OrderedMap κ α} {h : List (κ × Option α)}

/-- The empty map holds what a history without changes says. -/
lemma empty : (OrderedMap.empty : OrderedMap κ α).Recalls [] where
  nodup := List.nodup_nil
  mem_keys_iff k := by simp [OrderedMap.empty, keys]
  placed := ⟨nofun, .nil⟩
  get?_eq_some_iff k a := ⟨nofun, fun hholds => absurd ⟨a, hholds⟩ not_present_nil⟩

/-- After one more change the values are those of the history with the change. -/
lemma get?_change (hm : m.Recalls h) (c : κ × Option α) (k : κ) (a : α) :
    (m.change c).get? k = some a ↔ Holds (h ++ [c]) k a := by
  have hchange := changes_change m c
  rw [holds_concat]
  by_cases hk : c.1 = k
  · subst hk
    simp [hchange.get?_self]
  · simp [hchange.get?_other k (Ne.symm hk), hk, hm.get?_eq_some_iff]

/-- After one more change the keys are in the order of the history with the change. -/
lemma placed_change (hm : m.Recalls h) (c : κ × Option α) :
    Placed (h ++ [c]) (m.change c).keys := by
  have hthere (k : κ) (hk : k ∈ m.keys) : Present h k := (hm.mem_keys_iff k).1 hk
  have hlater := hm.placed.later hthere c
  rw [(changes_change m c).keys_eq]
  split_ifs with hsome hk
  · exact hlater
  · obtain ⟨k, a⟩ := c
    obtain ⟨a, rfl⟩ := Option.isSome_iff_exists.1 hsome
    exact hm.placed.enter hthere (fun hpresent => hk ((hm.mem_keys_iff k).2 hpresent)) a
  · exact hlater.sublist List.filter_sublist

/-- One more change carries a map along with its history. -/
lemma concat (hm : m.Recalls h) (c : κ × Option α) : (m.change c).Recalls (h ++ [c]) where
  nodup := (m.change c).nodup
  mem_keys_iff k := mem_keys_iff_exists.trans (exists_congr (hm.get?_change c k))
  placed := hm.placed_change c
  get?_eq_some_iff := hm.get?_change c

/-- Changes one after the other carry a map along with its history. -/
lemma foldl (hm : m.Recalls h) (cs : List (κ × Option α)) :
    (cs.foldl change m).Recalls (h ++ cs) := by
  induction cs using List.reverseRecOn with
  | nil => rwa [List.append_nil]
  | append_singleton cs c ih =>
    rw [List.foldl_concat, ← List.append_assoc]
    exact ih.concat c

end Recalls

/-- The changes that store the pairs of a map in order. -/
def history (m : OrderedMap κ α) : List (κ × Option α) := m.entries.map fun e => (e.1, some e.2)

/-- A map holds what its own pairs say. -/
lemma recalls_history (m : OrderedMap κ α) : m.Recalls m.history := by
  obtain ⟨entries, nodup⟩ := m
  induction entries using List.reverseRecOn with
  | nil => exact .empty
  | append_singleton l e ih =>
    have hnodup := nodup
    rw [List.map_append, List.map_singleton] at hnodup
    obtain ⟨hl, -, hne⟩ := List.nodup_append.1 hnodup
    have hnew : e.1 ∉ keys ⟨l, hl⟩ := fun he => hne e.1 he e.1 (List.mem_singleton_self _) rfl
    have hconcat := (ih hl).concat (e.1, some e.2)
    have hmap : change ⟨l, hl⟩ (e.1, some e.2) = ⟨l ++ [e], nodup⟩ := by
      simp only [change, insert, dif_neg hnew]
    rw [hmap] at hconcat
    rwa [history, List.map_append]

end OrderedMap

end Pipework
