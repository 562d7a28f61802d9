import Pipework.Proofs.App.Footprint
import Pipework.Proofs.Conversion.Outline

set_option autoImplicit false

/-!
# The cells in a value

Apps, number functions, operations and components lead to the cells of components. This file lists
the cells that a value leads to by itself, and says that taking a value apart, or looking for
something in it, leads to no other ones.

## Main definitions

* `Content.cells`, `Value.cells`, `Instance.cells` — the cells that something leads to.
* `Stage.cells` — the cells that a stage leads to.
* `Below` — cells that are there in a state with some number of components.

## Main results

* `Content.cells_app?`, `Content.cells_num?` — looking for an app or a number function.
* `cells_extractAll` — the contents of arguments.
* `cells_boundInvoke?` — the operation that a component is bound to.
-/

namespace Pipework

/-! ## Cells -/

/-- The cells in which a number function looks. -/
def Num.cells : Num → List CellId
  | .linear _ _ => []
  | .func _ => []
  | .over _ base => base.cells
  | .plain _ => []
  | .resumed _ cell => [cell]

/-- The cells that a routine leads to. -/
def Routine.cells : Routine → List CellId
  | .func _ owner => owner.toList
  | .num n => n.cells
  | .handler a => a.cells
  | _ => []

mutual

/-- The cells that a content leads to. -/
def Content.cells : Content → List CellId
  | .datum _ => []
  | .routine r => r.cells
  | .app _ a => a.cells
  | .value v => v.cells
  | .component i => i.cells
  | .mapOptions _ branch => branch.cells
  | .predicate _ => []
  | .registration _ => []

/-- The cells that a value leads to. -/
def Value.cells : Value → List CellId
  | .data c => c.cells
  | .bound c => c.cells
  | .callable r => r.cells
  | .component i => i.cells
  | .componentType _ => []

/-- The cells that a component leads to: its own, and those of the callable it stands for. -/
def Instance.cells : Instance → List CellId
  | .crafted _ _ _ none cell => [cell]
  | .crafted _ _ _ (some callable) cell => cell :: callable.cells
  | .mount _ branch next => branch.cells ++ next.cells

end

/-- The cells that arguments lead to. -/
def Args.cells (args : Args) : List CellId := args.flatMap Value.cells

/-- The cells that the entries of a component lead to. -/
def heldCells (entries : List Held) : List CellId := entries.flatMap fun h => h.content.cells

/-- The cells that making a wrapped app leads to. -/
def Factory.cells : Factory → List CellId
  | .callable r => r.cells
  | .told r component => r.cells ++ component.cells
  | .invoke r => r.cells
  | .construct _ _ => []

/-- The cells that a stage leads to. -/
def Stage.cells (st : Stage) : List CellId := st.factory.cells ++ st.args.cells

/-! ## Looking into values -/

/-- Whatever form an app has, it leads to the same cells. -/
lemma AppForm.cells_wrap (form : AppForm) (a : App) : (form.wrap a).cells = a.cells := by
  cases form <;> rfl

mutual

/-- The app that is found in a content leads where the content leads. -/
lemma Content.cells_app? : ∀ {c : Content} {a : App}, c.app? = some a → a.cells = c.cells
  | .app _ _, _, h => by cases h; rfl
  | .value v, _, h => v.cells_app? h
  | .datum _, _, h | .routine _, _, h | .component _, _, h | .mapOptions _ _, _, h
  | .predicate _, _, h | .registration _, _, h => by cases h

/-- The app of a value leads to what the value leads to. -/
lemma Value.cells_app? : ∀ (v : Value) {a : App}, v.app? = some a → a.cells = v.cells
  | .data _, _, h => Content.cells_app? h
  | .bound _, _, h => Content.cells_app? h
  | .callable _, _, h | .component _, _, h | .componentType _, _, h => by cases h

end

/-- The number function of a routine leads to what the routine leads to. -/
lemma Routine.cells_num? {r : Routine} {n : Num} (h : r.num? = some n) : n.cells = r.cells := by
  cases r with
  | num m =>
    cases h
    rfl
  | func f owner =>
    cases owner with
    | none =>
      simp only [num?, Option.ite_none_right_eq_some] at h
      cases h.2
      rfl
    | some cell => cases h
  | _ => cases h

mutual

/-- The number function that is found in a content leads where the content leads. -/
lemma Content.cells_num? : ∀ {c : Content} {n : Num}, c.num? = some n → n.cells = c.cells
  | .routine _, _, h => Routine.cells_num? h
  | .value v, _, h => v.cells_num? h
  | .datum _, _, h | .app _ _, _, h | .component _, _, h | .mapOptions _ _, _, h
  | .predicate _, _, h | .registration _, _, h => by cases h

/-- The number function of a value leads to what the value leads to. -/
lemma Value.cells_num? : ∀ (v : Value) {n : Num}, v.num? = some n → n.cells = v.cells
  | .data _, _, h => Content.cells_num? h
  | .bound _, _, h => Content.cells_num? h
  | .callable _, _, h => Routine.cells_num? h
  | .component _, _, h | .componentType _, _, h => by cases h

end

/-- What a value holds leads where the value leads. -/
lemma Value.cells_content? {v : Value} {c : Content} (h : v.content? = some c) :
    c.cells = v.cells := by
  cases v with
  | componentType t => cases h
  | _ =>
    cases h
    rfl

/-- The content of an argument leads where the argument leads. -/
lemma cells_extractFrom {index : Nat} {v : Value} {p : Shape} {c : Content}
    (h : extractFrom index v p = .ok c) : c.cells = v.cells := by
  unfold extractFrom at h
  split at h
  · cases h
    rfl
  · split at h
    · next d hd =>
      cases h
      obtain ⟨d', hd', hc⟩ := Option.bind_eq_some_iff.1 hd
      obtain ⟨-, hc⟩ := Option.ite_none_right_eq_some.1 hc
      cases hc
      exact Value.cells_content? hd'
    · cases h

/-- The contents of arguments lead to what the arguments lead to. -/
lemma cells_extractList {index : Nat} {params : List Shape} {args : Args} {cs : List Content}
    (h : extractList index params args = .ok cs) :
    ∀ c ∈ cs.flatMap Content.cells, c ∈ args.cells := by
  induction params generalizing index args cs with
  | nil =>
    cases h
    exact nofun
  | cons p params ih =>
    cases args with
    | nil =>
      cases h
      exact nofun
    | cons v args =>
      simp only [extractList] at h
      split at h
      · cases h
      · next c hc =>
        split at h
        · cases h
        · next cs' hcs =>
          cases h
          have ih := ih hcs
          intro d hd
          rw [List.flatMap_cons, List.mem_append] at hd
          rw [Args.cells, List.flatMap_cons, List.mem_append]
          exact hd.imp (fun hd => cells_extractFrom hc ▸ hd) (ih d)

/-- The contents of arguments lead where the arguments lead. -/
lemma cells_extractAll {params : List Shape} {args : Args} {cs : List Content}
    (h : extractAll params args = .ok cs) : ∀ c ∈ cs.flatMap Content.cells, c ∈ args.cells := by
  unfold extractAll at h
  split at h
  · cases h
  · exact cells_extractList h

/-- An operation leads to the cell of its component at most. -/
lemma Operation.cells_bind {cell : CellId} {op : Op} : (op.bind cell).value.cells ⊆ [cell] := by
  cases op with
  | call name f invocable keeps =>
    cases invocable <;> cases keeps <;> first | exact List.nil_subset _ | exact List.Subset.refl _
  | app name form layer => cases form <;> exact List.Subset.refl _
  | num name label invocable => cases invocable <;> exact List.Subset.refl _

/-- An operation leads nowhere else than its component. -/
lemma Instance.cells_operation {i : Instance} {o : Operation} (h : o ∈ i.operations) :
    ∀ c ∈ o.value.cells, c ∈ i.cells := by
  cases i with
  | mount path branch next =>
    obtain rfl : o = _ := by simpa [operations] using h
    exact fun _ => id
  | crafted cls label ops callable cell =>
    obtain ⟨op, -, rfl⟩ := List.mem_map.1 h
    intro c hc
    obtain rfl := List.mem_singleton.1 (Operation.cells_bind hc)
    cases callable <;> simp [cells]

/-- The operation that a component is bound to leads nowhere else than the component. -/
lemma cells_boundInvoke? {v o : Value} {t : Convention} (h : boundInvoke? v t = some o) :
    ∀ c ∈ o.cells, c ∈ v.cells := by
  obtain ⟨i, op, rfl, hop, rfl, -⟩ := exists_of_boundInvoke? h
  exact Instance.cells_operation hop

/-- The routine of a value that can be called leads where the value leads. -/
lemma Value.cells_routine? {v : Value} {r : Routine} (h : v.routine? = some r) :
    r.cells = v.cells := by
  cases v with
  | callable r' =>
    cases h
    rfl
  | _ => cases h

/-- The routine of an edge leads where the value leads that was registered. -/
lemma Conversion.cells_ofValue {v : Value} {c : Conversion} (h : ofValue v = .ok c) :
    c.routine.cells = v.cells := by
  unfold ofValue ofRoutine at h
  split at h
  · next r hr =>
    split at h <;> cases h
    exact Value.cells_routine? hr
  · cases h

/-- The app that a component keeps leads to what the component keeps. -/
lemma mem_heldCells_of_app? {entries : List Held} {a : App}
    (h : (entries.findSome? fun h => h.content.app?) = some a) {c : CellId} (hc : c ∈ a.cells) :
    c ∈ heldCells entries := by
  obtain ⟨e, he, hea⟩ := List.exists_of_findSome?_eq_some h
  exact List.mem_flatMap.2 ⟨e, he, Content.cells_app? hea ▸ hc⟩

/-- The number function that a component keeps leads to what the component keeps. -/
lemma mem_heldCells_of_num? {entries : List Held} {f : Num}
    (h : (entries.findSome? fun h => h.content.num?) = some f) {c : CellId} (hc : c ∈ f.cells) :
    c ∈ heldCells entries := by
  obtain ⟨e, he, hef⟩ := List.exists_of_findSome?_eq_some h
  exact List.mem_flatMap.2 ⟨e, he, Content.cells_num? hef ▸ hc⟩

/-! ## Cells that are there -/

/-- Cells that are there in a state with `n` components. -/
def Below (n : Nat) (cells : List CellId) : Prop := ∀ c ∈ cells, c < n

namespace Below

variable {n m : Nat} {l l' : List CellId}

/-- No cells are below any number. -/
lemma nil (n : Nat) : Below n [] := nofun

/-- Cells stay below as components are made. -/
lemma mono (h : Below n l) (hnm : n ≤ m) : Below m l := fun c hc => (h c hc).trans_le hnm

/-- Cells of two lists are below a number exactly if those of both are. -/
lemma append_iff : Below n (l ++ l') ↔ Below n l ∧ Below n l' := List.forall_mem_append

/-- Cells of a list of things are below a number exactly if those of each of them are. -/
lemma flatMap_iff {α : Type} {f : α → List CellId} {xs : List α} :
    Below n (xs.flatMap f) ↔ ∀ x ∈ xs, Below n (f x) := by
  simp only [Below, List.mem_flatMap]
  exact ⟨fun h x hx c hc => h c ⟨x, hx, hc⟩, fun h c ⟨x, hx, hc⟩ => h x hx c hc⟩

/-- An app that is found among entries leads where they lead. -/
lemma app? {entries : List Held} (h : Below n (heldCells entries)) {a : App}
    (ha : (entries.findSome? fun h => h.content.app?) = some a) : Below n a.cells :=
  fun c hc => h c (mem_heldCells_of_app? ha hc)

/-- A number function that is found among entries leads where they lead. -/
lemma num? {entries : List Held} (h : Below n (heldCells entries)) {f : Num}
    (hf : (entries.findSome? fun h => h.content.num?) = some f) : Below n f.cells :=
  fun c hc => h c (mem_heldCells_of_num? hf hc)

end Below

end Pipework
