set_option autoImplicit false

/-!
# Maps that remember the order of their keys

A finite map kept as a list of pairs with distinct keys. A new key goes to the end, a key that is
already there keeps its place when its value is replaced, and erasing a key closes the gap without
moving the others.

## Main definitions

* `OrderedMap` — the map, with `get?`, `insert`, `erase`, `keys` and `size`.

## Main results

* `OrderedMap.keys_insert`, `OrderedMap.keys_erase` — the keys after an update.
* `OrderedMap.get?_insert`, `OrderedMap.get?_erase` — the values after an update.
-/

namespace Pipework

universe u v

/-- A finite map whose keys are listed in the order in which they were added. -/
structure OrderedMap (κ : Type u) (α : Type v) where
  /-- The pairs, oldest key first. -/
  entries : List (κ × α)
  /-- No key is listed twice. -/
  nodup : (entries.map Prod.fst).Nodup

namespace OrderedMap

variable {κ : Type u} {α : Type v}

/-- The map without keys. -/
def empty : OrderedMap κ α := ⟨[], List.nodup_nil⟩

instance : Inhabited (OrderedMap κ α) := ⟨empty⟩

/-- The keys, oldest first. -/
def keys (m : OrderedMap κ α) : List κ := m.entries.map Prod.fst

/-- The values in the order of their keys. -/
def values (m : OrderedMap κ α) : List α := m.entries.map Prod.snd

/-- How many keys there are. -/
def size (m : OrderedMap κ α) : Nat := m.entries.length

/-- Whether there are no keys. -/
def isEmpty (m : OrderedMap κ α) : Bool := m.entries.isEmpty

variable [DecidableEq κ]

/-- The value stored under a key. -/
def get? (m : OrderedMap κ α) (k : κ) : Option α :=
  (m.entries.find? fun e => e.1 = k).map Prod.snd

/-- Whether a key is present. -/
def contains (m : OrderedMap κ α) (k : κ) : Bool := decide (k ∈ m.keys)

/-- Writes the value of the pairs with key `k`, and keeps every key where it is. -/
def overwrite (l : List (κ × α)) (k : κ) (a : α) : List (κ × α) :=
  l.map fun e => if e.1 = k then (k, a) else e

/-- Overwriting an entry leaves the keys and their order alone. -/
theorem map_fst_overwrite (l : List (κ × α)) (k : κ) (a : α) :
    (overwrite l k a).map Prod.fst = l.map Prod.fst := by
  induction l with
  | nil => rfl
  | cons e l ih =>
    by_cases h : e.1 = k
    · simp_all [overwrite]
    · simp_all [overwrite]

/-- Stores a value: a present key keeps its place, a new key is added at the end. -/
def insert (m : OrderedMap κ α) (k : κ) (a : α) : OrderedMap κ α :=
  if h : k ∈ m.keys then
    ⟨overwrite m.entries k a, by rw [map_fst_overwrite]; exact m.nodup⟩
  else
    ⟨m.entries ++ [(k, a)], by
      rw [List.map_append, List.nodup_append]
      refine ⟨m.nodup, by simp, ?_⟩
      intro x hx y hy hxy
      simp only [List.map_cons, List.map_nil, List.mem_singleton] at hy
      exact h (by rw [keys, ← hy, ← hxy]; exact hx)⟩

/-- Removes a key; the others keep their order. -/
def erase (m : OrderedMap κ α) (k : κ) : OrderedMap κ α :=
  ⟨m.entries.filter fun e => e.1 ≠ k, by
    exact List.Nodup.sublist (List.filter_sublist.map Prod.fst) m.nodup⟩

/-- Stores the pairs of a list one after the other. -/
def insertAll (m : OrderedMap κ α) (l : List (κ × α)) : OrderedMap κ α :=
  l.foldl (fun m e => m.insert e.1 e.2) m

/-- The map that results from storing the pairs of a list in order. -/
def ofList (l : List (κ × α)) : OrderedMap κ α := empty.insertAll l

/-- A new key goes to the end, and a key that is there keeps its place. -/
theorem keys_insert (m : OrderedMap κ α) (k : κ) (a : α) :
    (m.insert k a).keys = if k ∈ m.keys then m.keys else m.keys ++ [k] := by
  unfold insert
  split
  · simp [keys, map_fst_overwrite]
  · simp [keys]

/-- Erasing a key leaves the others in order. -/
theorem keys_erase (m : OrderedMap κ α) (k : κ) :
    (m.erase k).keys = m.keys.filter fun x => x ≠ k := by
  simp [keys, erase, List.filter_map, Function.comp_def]

/-- Overwriting one entry does not change what is found under other keys. -/
theorem find?_overwrite_of_ne (l : List (κ × α)) {k x : κ} (a : α) (h : x ≠ k) :
    ((overwrite l k a).find? fun e => e.1 = x) = l.find? fun e => e.1 = x := by
  have h' : ¬ k = x := fun hk => h hk.symm
  induction l with
  | nil => rfl
  | cons e l ih =>
    by_cases he : e.1 = k
    · have hex : ¬ e.1 = x := fun hx => h' (he ▸ hx)
      simpa [overwrite, he, hex, h'] using ih
    · by_cases hex : e.1 = x
      · simp [overwrite, hex, h]
      · simpa [overwrite, he, hex] using ih

/-- An entry that has been overwritten is found with its new value. -/
theorem find?_overwrite_self (l : List (κ × α)) {k : κ} (a : α) (h : k ∈ l.map Prod.fst) :
    ((overwrite l k a).find? fun e => e.1 = k).map Prod.snd = some a := by
  induction l with
  | nil => simp at h
  | cons e l ih =>
    by_cases he : e.1 = k
    · simp [overwrite, he]
    · have h' : k ∈ l.map Prod.fst := by
        rcases List.mem_cons.1 h with h | h
        · exact absurd h.symm he
        · exact h
      simpa [overwrite, he] using ih h'

/-- After a write the key has the new value and every other key the value it had. -/
theorem get?_insert (m : OrderedMap κ α) (k x : κ) (a : α) :
    (m.insert k a).get? x = if x = k then some a else m.get? x := by
  unfold insert
  split
  · next h =>
    by_cases hx : x = k
    · subst hx
      simpa [get?] using find?_overwrite_self m.entries a h
    · simp [get?, hx, find?_overwrite_of_ne m.entries a hx]
  · next h =>
    unfold get?
    rw [List.find?_append]
    by_cases hx : x = k
    · subst hx
      have : m.entries.find? (fun e => decide (e.1 = x)) = none := by
        rw [List.find?_eq_none]
        intro e he hk
        exact h (List.mem_map.2 ⟨e, he, by simpa using hk⟩)
      simp [this]
    · have hkx : ¬ k = x := fun h => hx h.symm
      simp [hx, hkx]

/-- After erasing a key it is absent and every other key has the value it had. -/
theorem get?_erase (m : OrderedMap κ α) (k x : κ) :
    (m.erase k).get? x = if x = k then none else m.get? x := by
  unfold get? erase
  simp only [List.find?_filter]
  by_cases hx : x = k
  · subst hx
    simp
  · rw [if_neg hx]
    congr 2
    funext e
    by_cases he : e.1 = x
    · simp [he, hx]
    · simp [he]

end OrderedMap

end Pipework
