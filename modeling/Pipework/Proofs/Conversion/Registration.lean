import Pipework.Conversion.Registry
import Pipework.Proofs.OrderedMap

set_option autoImplicit false

/-!
# Registries by their registrations

What registrations make of a registry. The first registration between two types gives the edge its
place, and the last one gives it its converter.

## Main definitions

* `Conversion.key`, `Conversion.last?` — the types of an edge, and the last edge between two types.
* `Registry.addAll` — a registry after some registrations.
* `Registry.Reflects` — a registry holds what some registrations make of it.

## Main results

* `Registry.keys_addAll`, `Registry.get?_addAll` — the places and the converters of the edges.
* `Registry.exists_edge_of_mem` — what has been registered is among the edges, unless something else
  has taken its place.
* `Registry.reflects_addAll_empty` — a registry that starts without edges reflects its history.
-/

namespace Pipework

/-! ## Edges -/

namespace Conversion

/-- The types between which an edge leads. -/
def key (c : Conversion) : Shape × Shape := (c.source, c.target)

/-- The last one of some edges that leads between two types. -/
def last? (cs : List Conversion) (k : Shape × Shape) : Option Conversion :=
  cs.reverse.find? fun c => c.key = k

/-- The last conversion with a key has this key. -/
lemma key_of_last? {cs : List Conversion} {k : Shape × Shape} {c : Conversion}
    (h : last? cs k = some c) : c.key = k := by
  simpa using List.find?_some h

/-- Between the types of an edge there is a last one. -/
lemma exists_last? {cs : List Conversion} {c : Conversion} (h : c ∈ cs) :
    ∃ d, last? cs c.key = some d := by
  refine Option.isSome_iff_exists.1 (List.find?_isSome.2 ⟨c, by simpa using h, by simp⟩)

end Conversion

/-! ## Registries -/

namespace Registry

/-- Adds edges one after the other. -/
def addAll (r : Registry) (cs : List Conversion) : Registry := cs.foldl add r

/-- Edges are added in order. -/
@[simp] lemma addAll_append (r : Registry) (cs ds : List Conversion) :
    r.addAll (cs ++ ds) = (r.addAll cs).addAll ds := List.foldl_append

/-- The registry of a new builder, by its registrations. -/
lemma builtin_eq_addAll :
    builtin = addAll OrderedMap.empty [Conversion.toObject, Conversion.toFunc] := rfl

/-- Adding edges is storing them under their types. -/
lemma addAll_eq_insertAll (r : Registry) (cs : List Conversion) :
    r.addAll cs = OrderedMap.insertAll r (cs.map fun c => (c.key, c)) := by
  rw [OrderedMap.insertAll, List.foldl_map]
  rfl

/-- The types of the edges are those of the registrations, each of them where it came first. -/
lemma keys_addAll (r : Registry) (cs : List Conversion) :
    (r.addAll cs).keys = (r.keys ++ cs.map Conversion.key).eraseDups := by
  rw [addAll_eq_insertAll, OrderedMap.keys_insertAll, List.map_map]
  rfl

/-- Between two types the last registration counts, and without one what was there before. -/
lemma get?_addAll (r : Registry) (cs : List Conversion) (k : Shape × Shape) :
    (r.addAll cs).get? k = (Conversion.last? cs k).or (r.get? k) := by
  rw [addAll_eq_insertAll, OrderedMap.get?_insertAll, ← List.map_reverse, List.find?_map,
    Conversion.last?, Option.map_map, Function.comp_def, Function.comp_def, Option.map_id']

/-- An edge that is found in a registry is one of its edges. -/
lemma mem_edges_of_get? {r : Registry} {k : Shape × Shape} {c : Conversion}
    (h : r.get? k = some c) : c ∈ r.edges :=
  List.mem_map.2 ⟨(k, c), OrderedMap.mem_of_get? h, rfl⟩

/-- After a registration there is an edge between its types: the last one that was registered. -/
lemma exists_edge_of_mem (r : Registry) {cs : List Conversion} {c : Conversion} (h : c ∈ cs) :
    ∃ d ∈ (r.addAll cs).edges, Conversion.last? cs c.key = some d := by
  obtain ⟨d, hd⟩ := Conversion.exists_last? h
  exact ⟨d, mem_edges_of_get? (k := c.key) (by rw [get?_addAll, hd]; rfl), hd⟩

/-- The edges of a registry are those of some registrations: one for the types of each, in the order
in which the types came first, and with the converter that came last. -/
structure Reflects (r : Registry) (cs : List Conversion) : Prop where
  nodup : (r.edges.map Conversion.key).Nodup
  order : r.edges.map Conversion.key = (cs.map Conversion.key).eraseDups
  last : ∀ e ∈ r.edges, Conversion.last? cs e.key = some e

/-- A registry reflects the registrations that have led to it. -/
lemma reflects_addAll_empty (cs : List Conversion) : (addAll OrderedMap.empty cs).Reflects cs := by
  have hentry : ∀ e ∈ (addAll OrderedMap.empty cs).entries,
      Conversion.last? cs e.1 = some e.2 := by
    intro e he
    have hget := OrderedMap.get?_of_mem he
    rw [get?_addAll] at hget
    exact Option.or_none.symm.trans hget
  have hmap : (addAll OrderedMap.empty cs).edges.map Conversion.key =
      (addAll OrderedMap.empty cs).keys := by
    rw [edges, OrderedMap.values, OrderedMap.keys, List.map_map]
    exact List.map_congr_left fun e he => Conversion.key_of_last? (hentry e he)
  refine ⟨?_, ?_, fun c hc => ?_⟩
  · rw [hmap]
    exact (addAll OrderedMap.empty cs).nodup
  · rw [hmap, keys_addAll]
    rfl
  · obtain ⟨e, he, rfl⟩ := List.mem_map.1 hc
    rw [Conversion.key_of_last? (hentry e he)]
    exact hentry e he

end Registry

end Pipework
