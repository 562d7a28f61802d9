import Pipework.Proofs.Value.Cells

set_option autoImplicit false

/-!
# Other numbers for cells

The number of a cell says how many components were made before, and nothing about the component.
Here the cells in apps, values and stages get other numbers. Types, operations, texts and all that
is looked up in a value stay what they are, up to the new numbers.

## Main definitions

* `App.renumber`, `Value.renumber`, `Stage.renumber` — the same with other numbers for the cells.

## Main results

* `Value.get?_renumber`, `extractAll_renumber` — looking into values and arguments.
* `boundInvoke?_renumber`, `Conversion.ofValue_renumber` — operations and edges.
* `Value.renumber_eq_self` — numbers that stay make no difference.
-/

namespace Pipework

variable {ρ : CellId → CellId}

/-! ## Renumbering -/

/-- An app with other numbers for its cells. -/
def App.renumber (ρ : CellId → CellId) : App → App
  | .notFound => .notFound
  | .leaf l => .leaf l
  | .over l inner => .over l (inner.renumber ρ)
  | .resumed l cell => .resumed l (ρ cell)
  | .mount path branch next => .mount path (branch.renumber ρ) (next.renumber ρ)
  | .choose c branch next => .choose c (branch.renumber ρ) (next.renumber ρ)
  | .delegate inner => .delegate (inner.renumber ρ)

/-- A number function with other numbers for its cells. -/
def Num.renumber (ρ : CellId → CellId) : Num → Num
  | .linear mul add => .linear mul add
  | .func f => .func f
  | .over step base => .over step (base.renumber ρ)
  | .plain step => .plain step
  | .resumed step cell => .resumed step (ρ cell)

/-- A routine with other numbers for its cells. -/
def Routine.renumber (ρ : CellId → CellId) : Routine → Routine
  | .func f owner => .func f (owner.map ρ)
  | .num n => .num (n.renumber ρ)
  | .handler a => .handler (a.renumber ρ)
  | r => r

mutual

/-- A content with other numbers for its cells. -/
def Content.renumber (ρ : CellId → CellId) : Content → Content
  | .datum d => .datum d
  | .routine r => .routine (r.renumber ρ)
  | .app form a => .app form (a.renumber ρ)
  | .value v => .value (v.renumber ρ)
  | .component i => .component (i.renumber ρ)
  | .mapOptions path branch => .mapOptions path (branch.renumber ρ)
  | .predicate c => .predicate c
  | .registration error => .registration error

/-- A value with other numbers for its cells. -/
def Value.renumber (ρ : CellId → CellId) : Value → Value
  | .data c => .data (c.renumber ρ)
  | .bound c => .bound (c.renumber ρ)
  | .callable r => .callable (r.renumber ρ)
  | .component i => .component (i.renumber ρ)
  | .componentType t => .componentType t

/-- A component with other numbers for its cells. -/
def Instance.renumber (ρ : CellId → CellId) : Instance → Instance
  | .crafted cls label ops none cell => .crafted cls label ops none (ρ cell)
  | .crafted cls label ops (some callable) cell =>
    .crafted cls label ops (some (callable.renumber ρ)) (ρ cell)
  | .mount path branch next => .mount path (branch.renumber ρ) (next.renumber ρ)

end

/-- Arguments with other numbers for their cells. -/
def Args.renumber (ρ : CellId → CellId) (args : Args) : Args := args.map (Value.renumber ρ)

/-- An entry of a component with other numbers for its cells. It still shows the same text. -/
def Held.renumber (ρ : CellId → CellId) (h : Held) : Held := ⟨h.content.renumber ρ, h.text⟩

/-- An operation with other numbers for its cells. -/
def Operation.renumber (ρ : CellId → CellId) (o : Operation) : Operation :=
  ⟨o.name, o.value.renumber ρ⟩

/-- An edge with other numbers for its cells. -/
def Conversion.renumber (ρ : CellId → CellId) (c : Conversion) : Conversion :=
  ⟨c.source, c.target, c.routine.renumber ρ⟩

/-- What makes a wrapped app, with other numbers for its cells. -/
def Factory.renumber (ρ : CellId → CellId) : Factory → Factory
  | .callable r => .callable (r.renumber ρ)
  | .told r component => .told (r.renumber ρ) (component.renumber ρ)
  | .invoke r => .invoke (r.renumber ρ)
  | .construct t params => .construct t params

/-- A stage with other numbers for its cells. -/
def Stage.renumber (ρ : CellId → CellId) (st : Stage) : Stage :=
  { st with factory := st.factory.renumber ρ, args := st.args.renumber ρ }

/-! ## Types -/

/-- The parameters of a routine stay. -/
@[simp] lemma Routine.params_renumber (r : Routine) : (r.renumber ρ).params = r.params := by
  cases r <;> rfl

/-- The type of what a routine gives stays. -/
@[simp] lemma Routine.out_renumber (r : Routine) : (r.renumber ρ).out = r.out := by
  cases r <;> rfl

/-- The shape of a routine stays. -/
@[simp] lemma Routine.shape_renumber (r : Routine) : (r.renumber ρ).shape = r.shape := by
  rw [shape, shape, params_renumber, out_renumber]

/-- The shape of a component stays. -/
@[simp] lemma Instance.shape_renumber (i : Instance) : (i.renumber ρ).shape = i.shape := by
  cases i with
  | crafted cls label ops callable cell => cases callable <;> rfl
  | mount path branch next => rfl

/-- The shape of a content stays. -/
@[simp] lemma Content.shape_renumber (c : Content) : (c.renumber ρ).shape = c.shape := by
  cases c <;> simp [renumber, shape]

/-- The shape of a value stays. -/
@[simp] lemma Value.shape_renumber (v : Value) : (v.renumber ρ).shape = v.shape := by
  cases v <;> simp [renumber, shape]

/-- The description of a value stays. -/
@[simp] lemma Value.describe_renumber (v : Value) : (v.renumber ρ).describe = v.describe := by
  cases v <;> simp [renumber, describe]

/-- A value fits the same parameters. -/
@[simp] lemma Value.fits_renumber (v : Value) (p : Shape) : (v.renumber ρ).fits p = v.fits p := by
  rw [fits, fits, shape_renumber]

/-- A value meets the same targets. -/
@[simp] lemma Value.satisfies_renumber (v : Value) (t : Convention) :
    (v.renumber ρ).satisfies t = v.satisfies t := by
  rw [satisfies, satisfies, shape_renumber]

/-! ## Looking into values -/

/-- The number function of a routine is the same with the new numbers. -/
lemma Routine.num?_renumber (r : Routine) :
    (r.renumber ρ).num? = r.num?.map (Num.renumber ρ) := by
  cases r with
  | func f owner =>
    cases owner with
    | none =>
      simp only [renumber, Option.map_none, num?]
      split <;> rfl
    | some cell => rfl
  | _ => rfl

mutual

/-- The app of a content is the same with the new numbers. -/
lemma Content.app?_renumber : ∀ c : Content, (c.renumber ρ).app? = c.app?.map (App.renumber ρ)
  | .app _ _ => rfl
  | .value v => v.app?_renumber
  | .datum _ | .routine _ | .component _ | .mapOptions _ _ | .predicate _ | .registration _ => rfl

/-- The app of a value is the same with the new numbers. -/
lemma Value.app?_renumber : ∀ v : Value, (v.renumber ρ).app? = v.app?.map (App.renumber ρ)
  | .data c => c.app?_renumber
  | .bound c => c.app?_renumber
  | .callable _ | .component _ | .componentType _ => rfl

end

mutual

/-- The number function of a content is the same with the new numbers. -/
lemma Content.num?_renumber : ∀ c : Content, (c.renumber ρ).num? = c.num?.map (Num.renumber ρ)
  | .routine r => r.num?_renumber
  | .value v => v.num?_renumber
  | .datum _ | .app _ _ | .component _ | .mapOptions _ _ | .predicate _ | .registration _ => rfl

/-- The number function of a value is the same with the new numbers. -/
lemma Value.num?_renumber : ∀ v : Value, (v.renumber ρ).num? = v.num?.map (Num.renumber ρ)
  | .data c => c.num?_renumber
  | .bound c => c.num?_renumber
  | .callable r => r.num?_renumber
  | .component _ | .componentType _ => rfl

end

/-- What is found first among entries is found first among them with other numbers. -/
lemma findSome?_renumber {α : Type} {look : Content → Option α} {move : α → α}
    (h : ∀ c : Content, look (c.renumber ρ) = (look c).map move) (entries : List Held) :
    ((entries.map (Held.renumber ρ)).findSome? fun e => look e.content) =
      (entries.findSome? fun e => look e.content).map move := by
  induction entries with
  | nil => rfl
  | cons e entries ih =>
    rw [List.map_cons, List.findSome?_cons, List.findSome?_cons, ih, Held.renumber, h]
    cases look e.content <;> rfl

/-- The content of a value is the same with the new numbers. -/
lemma Value.content?_renumber (v : Value) :
    (v.renumber ρ).content? = v.content?.map (Content.renumber ρ) := by
  cases v <;> rfl

/-- What a value gives as some type is the same with the new numbers. -/
lemma Value.get?_renumber (v : Value) (s : Shape) :
    (v.renumber ρ).get? s = (v.get? s).map (Content.renumber ρ) := by
  rw [get?, get?, content?_renumber]
  cases v.content? with
  | none => rfl
  | some c =>
    simp only [Option.map_some, Option.bind_some, Content.shape_renumber]
    split <;> rfl

/-- The routine of a value is the same with the new numbers. -/
lemma Value.routine?_renumber (v : Value) :
    (v.renumber ρ).routine? = v.routine?.map (Routine.renumber ρ) := by
  cases v <;> rfl

/-- An argument gives the same content with the new numbers, or fails alike. -/
lemma extractFrom_renumber (index : Nat) (v : Value) (p : Shape) :
    extractFrom index (v.renumber ρ) p = (extractFrom index v p).map (Content.renumber ρ) := by
  unfold extractFrom
  rw [Value.get?_renumber, Value.shape_renumber]
  split
  · rfl
  · cases v.get? p <;> rfl

/-- Arguments give the same contents with the new numbers, or fail alike. -/
lemma extractList_renumber (index : Nat) (params : List Shape) (args : Args) :
    extractList index params (args.renumber ρ) =
      (extractList index params args).map (List.map (Content.renumber ρ)) := by
  induction params generalizing index args with
  | nil => rfl
  | cons p params ih =>
    cases args with
    | nil => rfl
    | cons v args =>
      rw [Args.renumber, List.map_cons, extractList, extractList, extractFrom_renumber]
      cases extractFrom index v p with
      | error e => rfl
      | ok c =>
        have htail := ih (index + 1) args
        rw [Args.renumber] at htail
        simp only [Except.map, htail]
        cases extractList (index + 1) params args <;> rfl

/-- The contents of arguments with other numbers. -/
lemma extractAll_renumber (params : List Shape) (args : Args) :
    extractAll params (args.renumber ρ) =
      (extractAll params args).map (List.map (Content.renumber ρ)) := by
  have hlength : (args.renumber ρ).length = args.length := List.length_map _
  unfold extractAll
  rw [hlength, extractList_renumber]
  split <;> rfl

/-! ## Operations and edges -/

/-- An app gets new numbers in every form in the same way. -/
lemma AppForm.renumber_wrap (form : AppForm) (a : App) :
    (form.wrap a).renumber ρ = form.wrap (a.renumber ρ) := by
  cases form <;> rfl

/-- An operation that is bound to a cell is bound to the new one. -/
lemma Op.bind_renumber (op : Op) (cell : CellId) :
    op.bind (ρ cell) = (op.bind cell).renumber ρ := by
  cases op with
  | call name f invocable keeps => cases invocable <;> cases keeps <;> rfl
  | app name form layer => cases form <;> rfl
  | num name label invocable => cases invocable <;> rfl

/-- A component has the same operations with the new numbers. -/
lemma Instance.operations_renumber (i : Instance) :
    (i.renumber ρ).operations = i.operations.map (Operation.renumber ρ) := by
  cases i with
  | mount path branch next => rfl
  | crafted cls label ops callable cell =>
    have hops :
        ops.map (Op.bind (ρ cell)) = (ops.map (Op.bind cell)).map (Operation.renumber ρ) := by
      rw [List.map_map]
      exact List.map_congr_left fun op _ => op.bind_renumber cell
    cases callable <;> exact hops

/-- It has the same ones under every name. -/
lemma Instance.named_renumber (i : Instance) (name : String) :
    (i.renumber ρ).named name = (i.named name).map (Operation.renumber ρ) := by
  rw [named, named, operations_renumber, List.filter_map]
  rfl

/-- The target that an operation meets stays. -/
lemma Operation.convention_renumber (o : Operation) : (o.renumber ρ).convention = o.convention := by
  rw [convention, convention, renumber, Value.shape_renumber]

/-- The component of a value is the same with the new numbers. -/
lemma Value.component?_renumber (v : Value) :
    (v.renumber ρ).component? = v.component?.map (Instance.renumber ρ) := by
  cases v <;> rfl

/-- The operation that a component is bound to. -/
lemma boundInvoke?_renumber (v : Value) (t : Convention) :
    boundInvoke? (v.renumber ρ) t = (boundInvoke? v t).map (Value.renumber ρ) := by
  unfold boundInvoke?
  rw [Value.component?_renumber]
  cases v.component? with
  | none => rfl
  | some i =>
    simp only [Option.map_some, Option.bind_some, Instance.named_renumber, List.find?_map,
      Function.comp_def, Operation.convention_renumber, Option.map_map]
    rfl

/-- An edge accepts the same values. -/
@[simp] lemma Conversion.accepts_renumber (c : Conversion) (v : Value) :
    (c.renumber ρ).accepts (v.renumber ρ) = c.accepts v := by
  rw [accepts, accepts, Value.fits_renumber, renumber]

/-- The edge of a value with other numbers. -/
lemma Conversion.ofValue_renumber (v : Value) :
    ofValue (v.renumber ρ) = (ofValue v).map (Conversion.renumber ρ) := by
  unfold ofValue
  rw [Value.routine?_renumber, Value.describe_renumber]
  cases v.routine? with
  | none => rfl
  | some r =>
    simp only [Option.map_some, ofRoutine, Routine.params_renumber, Routine.out_renumber]
    split <;> rfl

/-- The first edge from a value to a convention, among edges with other numbers. -/
lemma directEdge?_renumber (edges : List Conversion) (v : Value) (t : Convention) :
    directEdge? (edges.map (Conversion.renumber ρ)) (v.renumber ρ) t =
      (directEdge? edges v t).map (Conversion.renumber ρ) := by
  simp only [directEdge?, List.find?_map, Function.comp_def, Conversion.accepts_renumber]
  rfl

/-! ## Numbers that stay -/

/-- Numbers that stay for all cells of an app make no difference to it. -/
lemma App.renumber_eq_self {a : App} (h : ∀ c ∈ a.cells, ρ c = c) : a.renumber ρ = a := by
  induction a with
  | notFound | leaf l => rfl
  | «over» l inner ih => rw [renumber, ih h]
  | resumed l cell => rw [renumber, h cell (List.mem_singleton_self cell)]
  | mount path branch next ihb ihn | choose c branch next ihb ihn =>
    rw [renumber, ihb fun d hd => h d (List.mem_append_left _ hd),
      ihn fun d hd => h d (List.mem_append_right _ hd)]
  | delegate inner ih => rw [renumber, ih h]

/-- Nor to the owner of a function. -/
lemma owner_renumber_eq_self {owner : Option CellId} (h : ∀ c ∈ owner.toList, ρ c = c) :
    owner.map ρ = owner := by
  cases owner with
  | none => rfl
  | some c => rw [Option.map_some, h c (by simp)]

/-- Nor to a number function. -/
lemma Num.renumber_eq_self {n : Num} (h : ∀ c ∈ n.cells, ρ c = c) : n.renumber ρ = n := by
  induction n with
  | linear mul add | func f | plain step => rfl
  | «over» step base ih => rw [renumber, ih h]
  | resumed step cell => rw [renumber, h cell (List.mem_singleton_self cell)]

/-- Nor to a routine. -/
lemma Routine.renumber_eq_self {r : Routine} (h : ∀ c ∈ r.cells, ρ c = c) : r.renumber ρ = r := by
  cases r with
  | func f owner => rw [renumber, owner_renumber_eq_self h]
  | num n => rw [renumber, Num.renumber_eq_self h]
  | handler a => rw [renumber, App.renumber_eq_self h]
  | _ => rfl

mutual

/-- Nor to a content. -/
lemma Content.renumber_eq_self : ∀ {c : Content}, (∀ x ∈ c.cells, ρ x = x) → c.renumber ρ = c
  | .routine _, h => congrArg Content.routine (Routine.renumber_eq_self h)
  | .app form _, h => congrArg (Content.app form) (App.renumber_eq_self h)
  | .value _, h => congrArg Content.value (Value.renumber_eq_self h)
  | .component _, h => congrArg Content.component (Instance.renumber_eq_self h)
  | .mapOptions path _, h => congrArg (Content.mapOptions path) (App.renumber_eq_self h)
  | .datum _, _ | .predicate _, _ | .registration _, _ => rfl

/-- Numbers that stay make no difference to a value. -/
lemma Value.renumber_eq_self : ∀ {v : Value}, (∀ x ∈ v.cells, ρ x = x) → v.renumber ρ = v
  | .data _, h => congrArg Value.data (Content.renumber_eq_self h)
  | .bound _, h => congrArg Value.bound (Content.renumber_eq_self h)
  | .callable _, h => congrArg Value.callable (Routine.renumber_eq_self h)
  | .component _, h => congrArg Value.component (Instance.renumber_eq_self h)
  | .componentType _, _ => rfl

/-- Nor to a component. -/
lemma Instance.renumber_eq_self : ∀ {i : Instance}, (∀ x ∈ i.cells, ρ x = x) → i.renumber ρ = i
  | .crafted cls label ops none cell, h => by
    rw [Instance.renumber, h cell (List.mem_singleton_self cell)]
  | .crafted cls label ops (some callable) cell, h => by
    rw [Instance.renumber, h cell List.mem_cons_self,
      Value.renumber_eq_self fun x hx => h x (List.mem_cons_of_mem _ hx)]
  | .mount path branch next, h => by
    rw [Instance.renumber, App.renumber_eq_self fun x hx => h x (List.mem_append_left _ hx),
      App.renumber_eq_self fun x hx => h x (List.mem_append_right _ hx)]

end

/-- Nor to arguments. -/
lemma Args.renumber_eq_self {args : Args} (h : ∀ c ∈ args.cells, ρ c = c) :
    args.renumber ρ = args :=
  (List.map_congr_left fun v hv => Value.renumber_eq_self fun c hc =>
    h c (List.mem_flatMap.2 ⟨v, hv, hc⟩)).trans (List.map_id _)

/-- Nor to what a component keeps. -/
lemma heldCells_renumber_eq_self {entries : List Held} (h : ∀ c ∈ heldCells entries, ρ c = c) :
    entries.map (Held.renumber ρ) = entries := by
  refine (List.map_congr_left fun e he => ?_).trans (List.map_id _)
  rw [Held.renumber, Content.renumber_eq_self fun c hc => h c (List.mem_flatMap.2 ⟨e, he, hc⟩)]
  rfl

/-- Nor to an edge. -/
lemma Conversion.renumber_eq_self {c : Conversion} (h : ∀ x ∈ c.routine.cells, ρ x = x) :
    c.renumber ρ = c := by
  rw [renumber, Routine.renumber_eq_self h]

/-- Nor to a factory. -/
lemma Factory.renumber_eq_self {m : Factory} (h : ∀ c ∈ m.cells, ρ c = c) : m.renumber ρ = m := by
  cases m with
  | callable r => rw [renumber, Routine.renumber_eq_self h]
  | told r component =>
    rw [renumber, Routine.renumber_eq_self fun c hc => h c (List.mem_append_left _ hc),
      Value.renumber_eq_self fun c hc => h c (List.mem_append_right _ hc)]
  | invoke r => rw [renumber, Routine.renumber_eq_self h]
  | construct t params => rfl

/-- Nor to a stage. -/
lemma Stage.renumber_eq_self {st : Stage} (h : ∀ c ∈ st.cells, ρ c = c) : st.renumber ρ = st := by
  rw [renumber, Factory.renumber_eq_self fun c hc => h c (List.mem_append_left _ hc),
    Args.renumber_eq_self fun c hc => h c (List.mem_append_right _ hc)]

end Pipework
