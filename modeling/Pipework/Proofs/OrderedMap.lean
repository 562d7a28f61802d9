import Mathlib.Data.List.Induction
import Mathlib.Data.List.Nodup
import Mathlib.Tactic.Common
import Pipework.OrderedMap

set_option autoImplicit false

/-!
# Maps by what has been stored in them

What storing pairs one after the other makes of a map. The first pair with a key gives the key its
place, and the last one gives it its value.

## Main results

* `OrderedMap.keys_insertAll` — the places of the keys.
* `OrderedMap.get?_insertAll` — the values of the keys.
-/

namespace Pipework

/-! ## Lists without repetitions -/

section EraseDups

variable {α : Type} [BEq α] [LawfulBEq α]

/-- Only what has not been there before is added to the first occurrences. -/
lemma eraseDups_concat (l : List α) (a : α) :
    (l ++ [a]).eraseDups = if a ∈ l then l.eraseDups else l.eraseDups ++ [a] := by
  rw [List.eraseDups_append]
  by_cases h : a ∈ l
  · simp [List.removeAll, h]
  · have hsingle : [a].eraseDups = [a] := rfl
    simp [List.removeAll, h, hsingle]

/-- A list in which nothing occurs twice stays as it is. -/
lemma eraseDups_of_nodup {l : List α} (h : l.Nodup) : l.eraseDups = l := by
  induction l using List.reverseRecOn with
  | nil => rfl
  | append_singleton l a ih =>
    obtain ⟨hl, -, hne⟩ := List.nodup_append.1 h
    have hnot : a ∉ l := fun ha => hne a ha a (List.mem_singleton_self a) rfl
    rw [eraseDups_concat, if_neg hnot, ih hl]

end EraseDups

namespace OrderedMap

variable {κ : Type} {α : Type} [DecidableEq κ]

/-! ## Entries -/

/-- An entry is found under its key. -/
lemma get?_of_mem {m : OrderedMap κ α} {e : κ × α} (h : e ∈ m.entries) :
    m.get? e.1 = some e.2 := by
  unfold get?
  obtain ⟨entries, nodup⟩ := m
  dsimp only at h ⊢
  induction entries with
  | nil => cases h
  | cons d l ih =>
    rw [List.map_cons, List.nodup_cons] at nodup
    obtain rfl | h := List.mem_cons.1 h
    · simp
    · have hne : d.1 ≠ e.1 := fun heq => nodup.1 (heq ▸ List.mem_map_of_mem h)
      simpa [hne] using ih nodup.2 h

/-- What is found under a key is an entry. -/
lemma mem_of_get? {m : OrderedMap κ α} {k : κ} {a : α} (h : m.get? k = some a) :
    (k, a) ∈ m.entries := by
  obtain ⟨e, he, rfl⟩ := Option.map_eq_some_iff.1 h
  have hk : e.1 = k := by simpa using List.find?_some he
  rw [← hk]
  exact List.mem_of_find?_eq_some he

/-- A key is there exactly if something is found under it. -/
lemma mem_keys_iff_exists {m : OrderedMap κ α} {k : κ} : k ∈ m.keys ↔ ∃ a, m.get? k = some a := by
  constructor
  · intro hk
    obtain ⟨e, he, rfl⟩ := List.mem_map.1 hk
    exact ⟨e.2, get?_of_mem he⟩
  · rintro ⟨a, ha⟩
    exact List.mem_map_of_mem (mem_of_get? ha)

/-- Storing a value adds no other one. -/
lemma mem_values_insert {m : OrderedMap κ α} {k : κ} {a b : α} (h : b ∈ (m.insert k a).values) :
    b = a ∨ b ∈ m.values := by
  unfold insert at h
  split at h
  · simp only [values, overwrite, List.map_map, List.mem_map] at h
    obtain ⟨e, he, rfl⟩ := h
    by_cases hk : e.1 = k
    · simp [hk]
    · exact Or.inr (List.mem_map.2 ⟨e, he, by simp [hk]⟩)
  · simpa [values, or_comm] using h

/-! ## Storing one pair after the other -/

/-- The last one of some entries is inserted last. -/
lemma insertAll_concat (m : OrderedMap κ α) (l : List (κ × α)) (e : κ × α) :
    m.insertAll (l ++ [e]) = (m.insertAll l).insert e.1 e.2 := by
  rw [insertAll, List.foldl_concat]
  rfl

/-- Each key has the place where it came first. -/
lemma keys_insertAll [BEq κ] [LawfulBEq κ] (m : OrderedMap κ α) (l : List (κ × α)) :
    (m.insertAll l).keys = (m.keys ++ l.map Prod.fst).eraseDups := by
  induction l using List.reverseRecOn with
  | nil =>
    have hkeys : m.keys.Nodup := m.nodup
    rw [List.map_nil, List.append_nil, eraseDups_of_nodup hkeys]
    rfl
  | append_singleton l e ih =>
    have hmem : e.1 ∈ (m.insertAll l).keys ↔ e.1 ∈ m.keys ++ l.map Prod.fst := by
      rw [ih, List.mem_eraseDups]
    rw [insertAll_concat, keys_insert, List.map_append, ← List.append_assoc, List.map_singleton,
      eraseDups_concat, ← ih]
    simp only [hmem]

/-- Each key has the value that came last, or the one that it had before. -/
lemma get?_insertAll (m : OrderedMap κ α) (l : List (κ × α)) (k : κ) :
    (m.insertAll l).get? k = ((l.reverse.find? fun e => e.1 = k).map Prod.snd).or (m.get? k) := by
  induction l using List.reverseRecOn with
  | nil => rfl
  | append_singleton l e ih =>
    rw [insertAll_concat, get?_insert, List.reverse_concat, List.find?_cons, ih]
    by_cases h : e.1 = k
    · simp [h]
    · simp [h, Ne.symm h]

/-- Pairs with keys of their own are added behind the others, in the order of the list. -/
lemma entries_insertAll_of_nodup {m : OrderedMap κ α} {l : List (κ × α)}
    (h : (m.keys ++ l.map Prod.fst).Nodup) : (m.insertAll l).entries = m.entries ++ l := by
  induction l using List.reverseRecOn with
  | nil => exact (List.append_nil _).symm
  | append_singleton l e ih =>
    rw [List.map_append, ← List.append_assoc, List.map_singleton] at h
    obtain ⟨hl, -, hne⟩ := List.nodup_append.1 h
    have hentries := ih hl
    have hnew : e.1 ∉ (m.insertAll l).keys := by
      rw [keys, hentries, List.map_append]
      exact fun he => hne e.1 he e.1 (List.mem_singleton_self _) rfl
    rw [insertAll_concat, insert, dif_neg hnew, ← List.append_assoc, ← hentries]

/-! ## Other values -/

/-- The map with every value replaced by what a function makes of it. -/
def mapValues {β : Type} (g : α → β) (m : OrderedMap κ α) : OrderedMap κ β where
  entries := m.entries.map fun e => (e.1, g e.2)
  nodup := by
    rw [List.map_map]
    exact m.nodup

variable {β : Type} (g : α → β) (m : OrderedMap κ α)

omit [DecidableEq κ] in
/-- The values of a map are changed one by one. -/
lemma values_mapValues : (m.mapValues g).values = m.values.map g := by
  rw [values, values, mapValues, List.map_map, List.map_map]
  rfl

omit [DecidableEq κ] in
/-- A change that leaves all values alone leaves the map alone. -/
lemma mapValues_eq_self {g : α → α} (h : ∀ a ∈ m.values, g a = a) : m.mapValues g = m := by
  obtain ⟨entries, nodup⟩ := m
  simp only [mapValues, mk.injEq]
  refine (List.map_congr_left fun e he => ?_).trans (List.map_id _)
  rw [h e.2 (List.mem_map.2 ⟨e, he, rfl⟩)]
  rfl

/-- A pair can be stored before or after the values are replaced. -/
lemma mapValues_insert (k : κ) (a : α) :
    (m.insert k a).mapValues g = (m.mapValues g).insert k (g a) := by
  have hkeys : (m.mapValues g).keys = m.keys := by
    rw [keys, keys, mapValues, List.map_map]
    rfl
  unfold insert
  by_cases h : k ∈ m.keys
  · rw [dif_pos h, dif_pos (hkeys ▸ h)]
    simp only [mapValues, overwrite, List.map_map, mk.injEq]
    refine List.map_congr_left fun e _ => ?_
    by_cases he : e.1 = k <;> simp [he]
  · rw [dif_neg h, dif_neg (hkeys ▸ h)]
    simp [mapValues]

end OrderedMap

end Pipework
