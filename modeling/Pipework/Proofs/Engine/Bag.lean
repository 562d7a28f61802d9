import Pipework.Proofs.Engine.Registers
import Pipework.Proofs.OrderedMap.Recall
import Pipework.Proofs.Value.Typing

set_option autoImplicit false

/-!
# What a property bag remembers

A property bag is changed through the handles on it, and only through those. Whichever of them the
operations go through, the bag holds what the history of these operations says, and every operation
answers with what was there before it.

## Main definitions

* `BagOp` — an operation on a bag, with what it changes.
* `State.after`, `State.changesIn` — operations through handles, and those on one bag.

## Main results

* `State.bag_after` — a bag undergoes the changes that are meant for it.
* `State.bag_recalls_history` — a bag holds what its history says, and what one more operation does.
-/

namespace Pipework

/-! ## Operations on bags -/

/-- An operation on a property bag. -/
inductive BagOp where
  /-- Stores a value. -/
  | set (key : String) (v : Value)
  /-- Stores plain data. -/
  | insert (key : String) (c : Content)
  | remove (key : String)

namespace BagOp

/-- What an operation changes. -/
def change : BagOp → String × Option Value
  | set key v => (key, some v)
  | insert key c => (key, some (.data c))
  | remove key => (key, none)

/-- Runs an operation on a bag. -/
def run (p : BagId) : BagOp → Engine (Option Value)
  | set key v => Engine.setProperty p key v
  | insert key c => Engine.setProperty p key (.data c)
  | remove key => Engine.removeProperty p key

/-- An operation answers with what has been stored under its key, and changes nothing but that. -/
lemma exec_run (op : BagOp) (p : BagId) (s : State) :
    (op.run p).exec s =
      ((s.bag p).get? op.change.1, s.updateBag p fun m => m.change op.change) := by
  cases op <;> rfl

end BagOp

namespace State

/-- The state after operations through the handles that builders have on their bags. -/
def after (s : State) (ops : List (Builder × BagOp)) : State :=
  ops.foldl (fun s x => ((x.2.run x.1.properties).exec s).2) s

/-- The changes that operations make in a bag, whichever handles they go through. -/
def changesIn (p : BagId) (ops : List (Builder × BagOp)) : List (String × Option Value) :=
  (ops.filter fun x => x.1.properties = p).map fun x => x.2.change

variable {s : State} {p : BagId}

/-- Operations on bags make no bags. -/
@[simp] lemma length_bags_after (s : State) (ops : List (Builder × BagOp)) :
    (s.after ops).bags.length = s.bags.length := by
  induction ops using List.reverseRecOn with
  | nil => rfl
  | append_singleton ops x ih =>
    rw [after, List.foldl_concat, BagOp.exec_run, length_bags_updateBag]
    exact ih

/-- A bag has undergone the changes that are meant for it. -/
lemma bag_after (hp : p < s.bags.length) (ops : List (Builder × BagOp)) :
    (s.after ops).bag p = (changesIn p ops).foldl OrderedMap.change (s.bag p) := by
  induction ops using List.reverseRecOn with
  | nil => rfl
  | append_singleton ops x ih =>
    have hafter : s.after (ops ++ [x]) = ((x.2.run x.1.properties).exec (s.after ops)).2 :=
      List.foldl_concat _ _ _ _
    have hlt : p < (s.after ops).bags.length := by rwa [length_bags_after]
    rw [hafter, BagOp.exec_run, changesIn, List.filter_append, List.map_append]
    by_cases hx : x.1.properties = p
    · rw [hx, bag_updateBag_self _ _ hlt]
      simp [hx, ih, changesIn]
    · rw [bag_updateBag_of_ne _ _ hx, ih]
      simp [hx, changesIn]

/-- **What a bag remembers.** From any state in which a bag exists, after operations through any
handles, the bag holds what its history says: the pairs that it had and then the changes through the
handles on this bag. The keys are listed without repetition, in the order in
which they have entered, and each has the value that was stored last, unless it has been removed
since. Number, emptiness and presence agree with the keys, and a typed look succeeds exactly for the
type of the value, unless that is a component type. One more operation answers with what was stored
under its key, gives the key its value, touches no other key, and moves none.

**Proof sketch.** An operation is one change of the bag of its handle and of no other
(`BagOp.exec_run`, `bag_after`), so it remains to follow a map along a list of changes
(`OrderedMap.Recalls.foldl`), beginning with the map itself (`OrderedMap.recalls_history`). -/
theorem bag_recalls_history (hp : p < s.bags.length) (ops : List (Builder × BagOp)) :
    let s' := s.after ops
    let m := s'.bag p
    m.Recalls ((s.bag p).history ++ changesIn p ops) ∧
    (m.size = m.keys.length ∧ (m.isEmpty = true ↔ m.keys = []) ∧
      ∀ k, m.contains k = true ↔ k ∈ m.keys) ∧
    (∀ k T, ((m.get? k).bind fun v => v.get? T).isSome = true ↔
      ∃ v, m.get? k = some v ∧ v.shape = T ∧ v.isComponentType = false) ∧
    ∀ (b : Builder) (op : BagOp), b.properties = p →
      ((op.run b.properties).exec s').1 = m.get? op.change.1 ∧
      m.Changes op.change (((op.run b.properties).exec s').2.bag p) := by
  intro s' m
  refine ⟨?_, ⟨?_, ?_, fun k => decide_eq_true_iff⟩, fun k T => ?_, ?_⟩
  · have hbag : m = _ := bag_after hp ops
    rw [hbag]
    exact (OrderedMap.recalls_history _).foldl _
  · exact (List.length_map _).symm
  · rw [OrderedMap.isEmpty, List.isEmpty_iff, OrderedMap.keys, List.map_eq_nil_iff]
  · simp only [Option.isSome_bind, Option.any_eq_true, Value.isSome_get?_iff]
  · rintro b op rfl
    have hlt : b.properties < s'.bags.length := by rwa [length_bags_after]
    rw [BagOp.exec_run, bag_updateBag_self _ _ hlt]
    exact ⟨rfl, m.changes_change op.change⟩

/-- A key that is stored again stays in front of the other one; once it has been removed through one
handle and stored through another, it comes last. -/
theorem bag_recalls_history_again :
    let s := (Builder.make.exec .initial).2
    let b : Builder := .bareRoot
    let ops : List (Builder × BagOp) := [(b, .insert "a" (.datum .unit)),
      (b, .insert "b" (.datum .unit)), (b.branch, .set "a" notFoundValue)]
    let more : List (Builder × BagOp) := [(b.branch, .remove "a"), (b, .insert "a" (.datum .unit))]
    let m := (s.after ops).bag 0
    let m' := (s.after (ops ++ more)).bag 0
    m.keys = [addConversionKey, defaultAppKey, "a", "b"] ∧
    m'.keys = [addConversionKey, defaultAppKey, "b", "a"] ∧
    m'.Recalls ((s.bag 0).history ++ changesIn 0 (ops ++ more)) := by
  intro s b ops more m m'
  have hp : 0 < s.bags.length := by decide
  exact ⟨by decide, by decide, (bag_recalls_history hp (ops ++ more)).1⟩

end State

end Pipework
