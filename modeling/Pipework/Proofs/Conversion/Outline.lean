import Pipework.Proofs.Engine.Registers
import Pipework.Proofs.Value.Typing

set_option autoImplicit false

/-!
# Trails from a value to a convention

What can be known of a search before anything runs. Of a value only its outline is looked at: its
shape, and the handles of the callable `Invoke` operations of a component. A trail starts at the
value or at one of those operations and follows edges of a registry.

## Main definitions

* `Outline`, `Value.outline` — what is known of a value before anything runs.
* `Trail`, `Trail.run` — a start and the edges that are followed from there.
* `Outline.step?`, `Outline.approach?`, `Outline.via?`, `Outline.plan?` — the trails that are tried.
* `Outline.losing` — the trails that are followed in vain before the plan is found.
* `Registry.Filled` — the registries that registrations can lead to.

## Main results

* `Trail.run_step_yields`, `Trail.run_plan_yields` — following a trail does not fail, and the
  outline of the value that it leads to is known in advance.
* `shape_of_convert` — what a conversion gives has the handle of its target.
-/

namespace Pipework

/-! ## Outlines -/

/-- What is known of a value before anything runs. -/
structure Outline where
  shape : Shape
  /-- The handles of the callable `Invoke` operations, in the order of their declaration. -/
  invokes : List Shape
  deriving DecidableEq

/-- The outline of a value that is no component. -/
def Outline.plain (s : Shape) : Outline := ⟨s, []⟩

/-- The callable `Invoke` operations of a component, in the order of their declaration. -/
def Value.invokes (v : Value) : List Operation :=
  ((v.component?.map fun i => i.named invokeName).getD []).filter fun o => o.convention.isCallable

/-- The outline of a value. -/
def Value.outline (v : Value) : Outline := ⟨v.shape, v.invokes.map fun o => o.value.shape⟩

/-- The outline of a value has its shape. -/
@[simp] lemma Value.shape_outline (v : Value) : v.outline.shape = v.shape := rfl

/-- The handle of an operation is the shape of its value. -/
@[simp] lemma Operation.handle_convention (o : Operation) : o.convention.handle = o.value.shape :=
  Convention.handle_ofShape _

/-- The operation by which a component stands for a convention is the first callable `Invoke`
operation of that handle. -/
lemma boundInvoke?_eq (v : Value) (t : Convention) :
    boundInvoke? v t = (v.invokes.find? fun o => o.value.shape = t.handle).map Operation.value := by
  unfold boundInvoke? Value.invokes
  cases v.component? with
  | none => rfl
  | some i => simp [Convention.agrees]

/-- A component stands for a convention exactly when its outline lists the handle. -/
lemma isSome_boundInvoke? (v : Value) (t : Convention) :
    (boundInvoke? v t).isSome = true ↔ t.handle ∈ v.outline.invokes := by
  simp [boundInvoke?_eq, Value.outline]

/-- An operation is a handle: no component, and no component type. -/
lemma Instance.value_of_mem_operations {i : Instance} {o : Operation} (h : o ∈ i.operations) :
    o.value.outline = .plain o.value.shape ∧ o.value.isComponentType = false := by
  cases i with
  | mount path branch next =>
    obtain rfl : o = _ := by simpa [Instance.operations] using h
    exact ⟨rfl, rfl⟩
  | crafted cls label ops callable cell =>
    obtain ⟨op, -, rfl⟩ := List.mem_map.1 h
    cases op with
    | call name f invocable keeps => cases invocable <;> exact ⟨rfl, rfl⟩
    | app name form layer => exact ⟨rfl, rfl⟩
    | num name label invocable => cases invocable <;> exact ⟨rfl, rfl⟩

/-- What a component is bound to is one of its operations, with the handle of the convention. -/
lemma exists_of_boundInvoke? {v o : Value} {t : Convention} (h : boundInvoke? v t = some o) :
    ∃ i op, v = .component i ∧ op ∈ i.operations ∧ op.value = o ∧ o.shape = t.handle := by
  rw [boundInvoke?_eq, Option.map_eq_some_iff] at h
  obtain ⟨op, hfind, rfl⟩ := h
  have hshape : op.value.shape = t.handle := by simpa using List.find?_some hfind
  have hmem : op ∈ v.invokes := List.mem_of_find?_eq_some hfind
  cases v with
  | component i =>
    simp only [Value.invokes, Value.component?, Option.map_some, Option.getD_some,
      Instance.named] at hmem
    exact ⟨i, op, rfl, List.mem_of_mem_filter (List.mem_of_mem_filter hmem), rfl, hshape⟩
  | _ => simp [Value.invokes, Value.component?] at hmem

/-- The operation by which a component stands for a convention is a handle of that convention. -/
lemma outline_of_boundInvoke? {v o : Value} {t : Convention} (h : boundInvoke? v t = some o) :
    o.outline = .plain t.handle ∧ o.isComponentType = false := by
  obtain ⟨i, op, -, hop, rfl, hshape⟩ := exists_of_boundInvoke? h
  rw [← hshape]
  exact Instance.value_of_mem_operations hop

/-! ## Edges and registries -/

namespace Conversion

/-- Whether an edge starts at values of a shape. -/
def startsAt (c : Conversion) (s : Shape) : Bool := s = c.source || c.source = .value

/-- An edge accepts a value because of its shape. -/
lemma accepts_eq (c : Conversion) (v : Value) : c.accepts v = c.startsAt v.shape := rfl

/-- The ends of an edge are the parameter and the result of its routine. -/
structure Sound (c : Conversion) : Prop where
  params_eq : c.routine.params = [c.source]
  out_eq : c.routine.out = c.target

/-- An edge that is made from a value converts to the shape that it declares. -/
lemma sound_of_ofValue {v : Value} {c : Conversion} (h : ofValue v = .ok c) : c.Sound := by
  unfold ofValue at h
  split at h
  · next r _ =>
    unfold ofRoutine at h
    split at h
    · next p hp =>
      cases h
      exact ⟨hp, rfl⟩
    · cases h
  · cases h

/-- Sending a value along an edge that starts there does not fail, and gives plain data of the type
at the end of the edge. -/
lemma apply_yields {c : Conversion} (hc : c.Sound) {v : Value} (hv : v.isComponentType = false)
    (h : c.startsAt v.shape = true) :
    (c.apply v).Yields fun out => out.outline = .plain c.target ∧ out.isComponentType = false := by
  have hargs : List.Forall₂ Value.Gives [v] c.routine.params := by
    rw [hc.params_eq]
    exact .cons (Value.gives_of_fits (.inl hv) h) .nil
  refine (Routine.invoke_yields hargs).mono ?_
  rintro _ ⟨k, rfl, hk⟩
  rw [← hc.out_eq, ← hk]
  exact ⟨rfl, rfl⟩

end Conversion

/-- The registries that can come about: every edge was added for a value that can be registered. -/
inductive Registry.Filled : Registry → Prop
  | empty : Filled OrderedMap.empty
  | add {r : Registry} {v : Value} {c : Conversion} (hr : Filled r)
      (hc : Conversion.ofValue v = .ok c) : Filled (r.add c)

/-- The registry of a new builder is filled. -/
lemma Registry.builtin_filled : Registry.builtin.Filled :=
  .add (v := .callable .toFunc) (.add (v := .callable .toObject) .empty rfl) rfl

/-- In a registry that registrations have led to, the ends of every edge are those of its
routine. -/
lemma Registry.Filled.sound {r : Registry} (hr : r.Filled) : ∀ c ∈ r.edges, c.Sound := by
  induction hr with
  | empty => exact fun c hc => absurd hc List.not_mem_nil
  | add _ hc ih =>
    intro d hd
    rcases OrderedMap.mem_values_insert hd with rfl | hd
    · exact Conversion.sound_of_ofValue hc
    · exact ih d hd

/-- Registrations fill a registry. -/
lemma Registry.Filled.addAll {r : Registry} (hr : r.Filled) {cs : List Conversion}
    (hcs : ∀ c ∈ cs, ∃ v, Conversion.ofValue v = .ok c) : (r.addAll cs).Filled := by
  induction cs generalizing r with
  | nil => exact hr
  | cons c cs ih =>
    obtain ⟨v, hv⟩ := hcs c List.mem_cons_self
    exact ih (hr.add hv) fun d hd => hcs d (List.mem_cons_of_mem _ hd)

/-- Registrations leave a filled registry filled. -/
lemma State.Registers.filled {l : List Registration} {s s' : State} {k : RegistryId}
    (h : State.Registers l s s') (hs : (s.registry k).Filled) : (s'.registry k).Filled := by
  by_cases hk : k < s.registries.length
  · rw [h.registry_eq k hk]
    refine hs.addAll fun c hc => ?_
    obtain ⟨x, hx, rfl⟩ := List.mem_map.1 hc
    exact h.exists_value x (List.mem_of_mem_filter hx)
  · rw [State.registry_of_length_le (h.length_registries ▸ Nat.not_lt.1 hk)]
    exact .empty

/-- A function from one token type to another. -/
def tokenFunc (source target : Token) : Func :=
  .mk [.atom (.token source)] (.token target) "step" none [] []

/-- The edge of a function from one token type to another. -/
def tokenEdge (source target : Token) : Conversion :=
  ⟨.atom (.token source), .atom (.token target), .func (tokenFunc source target) none⟩

/-- The edges between the given token types, in order. -/
def tokenRegistry (l : List (Token × Token)) : Registry :=
  l.foldl (fun r p => r.add (tokenEdge p.1 p.2)) .empty

/-- Registering conversions between tokens fills a registry. -/
lemma tokenRegistry_filled (l : List (Token × Token)) : (tokenRegistry l).Filled := by
  unfold tokenRegistry
  generalize hr : OrderedMap.empty = r
  have hf : Registry.Filled r := hr ▸ .empty
  clear hr
  induction l generalizing r with
  | nil => exact hf
  | cons p l ih => exact ih _ (.add (v := .callable (.func (tokenFunc p.1 p.2) none)) hf rfl)

/-! ## Trails -/

/-- A trail through a registry. -/
structure Trail where
  /-- The trail starts at the value itself, or at its first callable `Invoke` operation of a
  handle. -/
  start : Option Shape
  /-- The edges that are followed, in order. -/
  edges : List Conversion

namespace Trail

/-- Where a trail starts. -/
def origin (w : Trail) (v : Value) : Value :=
  match w.start with
  | none => v
  | some h => ((v.invokes.find? fun o => o.value.shape = h).map Operation.value).getD v

/-- A trail that starts at an operation starts where the component is bound. -/
lemma origin_of_boundInvoke? {v o : Value} {t : Convention} (h : boundInvoke? v t = some o)
    (es : List Conversion) : origin ⟨some t.handle, es⟩ v = o := by
  rw [boundInvoke?_eq] at h
  simp [origin, h]

/-- Follows a trail: every edge is taken once, with what the edge before it has given. -/
def run (w : Trail) (v : Value) : Assembly Value :=
  w.edges.foldlM (fun u c => c.apply u) (w.origin v)

/-- A trail that goes on along further edges. -/
def append (w : Trail) (es : List Conversion) : Trail := ⟨w.start, w.edges ++ es⟩

/-- More edges are followed where the trail ends. -/
lemma run_append (w : Trail) (es : List Conversion) (v : Value) :
    (w.append es).run v = w.run v >>= es.foldlM fun u c => c.apply u :=
  List.foldlM_append

/-- A trail without edges gives the value at its start. -/
lemma run_nil (s : Option Shape) (v : Value) : (⟨s, []⟩ : Trail).run v = pure (origin ⟨s, []⟩ v) :=
  rfl

/-- A trail of one edge. -/
lemma run_single (c : Conversion) (v : Value) : (⟨none, [c]⟩ : Trail).run v = c.apply v := by
  simp [run, origin]

end Trail

namespace Outline

variable (edges : List Conversion) (x : Outline) (t : Shape)

/-- The trail in one hop: stay, bind an operation, or take the first edge that leads there. -/
def step? : Option Trail :=
  if x.shape = t then some ⟨none, []⟩
  else if t ∈ x.invokes then some ⟨some t, []⟩
  else (edges.find? fun c => c.target = t && c.startsAt x.shape).map fun c => ⟨none, [c]⟩

/-- The trail to the start of an edge. -/
def approach? (e : Conversion) : Option Trail :=
  if e.startsAt x.shape then some ⟨none, []⟩ else x.step? edges e.source

/-- The trail along an edge, up to its end. -/
def trial? (e : Conversion) : Option Trail := (x.approach? edges e).map fun w => w.append [e]

/-- The trail along an edge and from its end to the target in one hop. -/
def via? (e : Conversion) : Option Trail :=
  (x.trial? edges e).bind fun w =>
    ((plain e.target).step? edges t).map fun post => w.append post.edges

/-- The trail to a convention: in one hop, or along the first edge that allows it. -/
def plan? : Option Trail :=
  match x.step? edges t with
  | some w => some w
  | none => edges.findSome? (x.via? edges t)

/-- The trails that are followed in vain: when no hop leads to the target, those along the edges
before the one that the plan takes, or along all edges if there is no plan. -/
def losing : List Trail :=
  match x.step? edges t with
  | some _ => []
  | none => (edges.takeWhile fun e => (x.via? edges t e).isNone).filterMap (x.trial? edges)

/-- The outline of the value at the end of a trail: what is already there stays what it is. -/
def arrive : Outline := if x.shape = t then x else plain t

/-- What has arrived at a shape has this shape. -/
@[simp] lemma shape_arrive : (x.arrive t).shape = t := by
  unfold arrive
  split
  · assumption
  · rfl

variable {edges x t}

/-- No step is needed to the shape that is there. -/
lemma step?_of_shape (h : x.shape = t) : x.step? edges t = some ⟨none, []⟩ := if_pos h

/-- From a plain value a hop starts at the value itself. -/
lemma start_of_step?_plain {s : Shape} {w : Trail} (h : (plain s).step? edges t = some w) :
    w.start = none := by
  unfold step? at h
  split at h
  · cases h
    rfl
  · simp only [plain, List.not_mem_nil, if_false, Option.map_eq_some_iff] at h
    obtain ⟨c, -, rfl⟩ := h
    rfl

end Outline

namespace Trail

variable {edges : List Conversion} {v : Value}

/-- A hop does not fail, and the outline of what it gives is known. -/
lemma run_step_yields (hedges : ∀ c ∈ edges, c.Sound) (hv : v.isComponentType = false) {t : Shape}
    {w : Trail} (h : v.outline.step? edges t = some w) :
    (w.run v).Yields fun out =>
      out.outline = v.outline.arrive t ∧ out.isComponentType = false := by
  unfold Outline.step? at h
  unfold Outline.arrive
  split at h
  · next hs =>
    cases h
    rw [if_pos hs, run_nil]
    exact .pure ⟨rfl, hv⟩
  · next hs =>
    rw [if_neg hs]
    split at h
    · next ht =>
      cases h
      obtain ⟨o, ho⟩ := Option.isSome_iff_exists.1 ((isSome_boundInvoke? v (.object t)).2 ht)
      rw [run_nil, show origin ⟨some t, []⟩ v = o from origin_of_boundInvoke? ho []]
      exact .pure (outline_of_boundInvoke? ho)
    · obtain ⟨c, hc, rfl⟩ := Option.map_eq_some_iff.1 h
      have hp := List.find?_some hc
      simp only [Bool.and_eq_true, decide_eq_true_eq] at hp
      rw [run_single, ← hp.1]
      exact Conversion.apply_yields (hedges c (List.mem_of_find?_eq_some hc)) hv hp.2

/-- Reaching the start of an edge does not fail, and the edge starts at what is reached. -/
lemma run_approach_yields (hedges : ∀ c ∈ edges, c.Sound) (hv : v.isComponentType = false)
    {e : Conversion} {w : Trail} (h : v.outline.approach? edges e = some w) :
    (w.run v).Yields fun out => e.startsAt out.shape = true ∧ out.isComponentType = false := by
  unfold Outline.approach? at h
  split at h
  · next hs =>
    cases h
    rw [run_nil]
    exact .pure ⟨hs, hv⟩
  · refine (run_step_yields hedges hv h).mono ?_
    rintro out ⟨ho, hct⟩
    have hshape : out.shape = e.source := by
      rw [← Value.shape_outline, ho, Outline.shape_arrive]
    exact ⟨by simp [Conversion.startsAt, hshape], hct⟩

/-- Following a trail up to the end of an edge does not fail, and gives plain data. -/
lemma run_trial_yields (hedges : ∀ c ∈ edges, c.Sound) (hv : v.isComponentType = false)
    {e : Conversion} (he : e ∈ edges) {w : Trail} (h : v.outline.trial? edges e = some w) :
    (w.run v).Yields fun out => out.outline = .plain e.target ∧ out.isComponentType = false := by
  obtain ⟨pre, hpre, rfl⟩ := Option.map_eq_some_iff.1 h
  rw [run_append]
  refine (run_approach_yields hedges hv hpre).bind ?_
  rintro u ⟨hu, hct⟩
  simpa using Conversion.apply_yields (hedges e he) hct hu

/-- What is reached along an edge and one hop from its end has the outline of the target. -/
lemma run_via_yields (hedges : ∀ c ∈ edges, c.Sound) (hv : v.isComponentType = false)
    {t : Shape} {e : Conversion} (he : e ∈ edges) {w : Trail}
    (h : v.outline.via? edges t e = some w) :
    (w.run v).Yields fun out => out.outline = .plain t ∧ out.isComponentType = false := by
  obtain ⟨pre, hpre, hpost⟩ := Option.bind_eq_some_iff.1 h
  obtain ⟨post, hstep, rfl⟩ := Option.map_eq_some_iff.1 hpost
  rw [run_append]
  refine (run_trial_yields hedges hv he hpre).bind ?_
  rintro u ⟨hu, hct⟩
  have hrun : post.edges.foldlM (fun u c => c.apply u) u = post.run u := by
    simp [run, origin, Outline.start_of_step?_plain hstep]
  rw [hrun]
  rw [← hu] at hstep
  refine (run_step_yields hedges hct hstep).mono ?_
  rintro out ⟨ho, hct'⟩
  refine ⟨?_, hct'⟩
  rw [ho, Outline.arrive, hu]
  split
  · next hs => rw [← hs]; rfl
  · rfl

/-- Following the plan does not fail, and the outline of what it gives is known. -/
lemma run_plan_yields (hedges : ∀ c ∈ edges, c.Sound) (hv : v.isComponentType = false)
    {t : Shape} {w : Trail} (h : v.outline.plan? edges t = some w) :
    (w.run v).Yields fun out =>
      out.outline = v.outline.arrive t ∧ out.isComponentType = false := by
  unfold Outline.plan? at h
  split at h
  · next w' hstep =>
    cases h
    exact run_step_yields hedges hv hstep
  · next hstep =>
    obtain ⟨e, he, hvia⟩ := List.exists_of_findSome?_eq_some h
    have hne : v.outline.shape ≠ t := by
      intro hs
      simp [Outline.step?_of_shape hs] at hstep
    rw [Outline.arrive, if_neg hne]
    exact run_via_yields hedges hv he hvia

end Trail

/-! ## The handle of what a conversion gives -/

section Handle

variable {edges : List Conversion} (hedges : ∀ c ∈ edges, c.Sound) {v out : Value} {n : Nat}
  {t : Convention} {s s' : State}
include hedges

/-- What one hop gives has the shape of the target. -/
lemma shape_of_oneHop (h : (oneHop edges v t).exec s = (.ok (some (out, n)), s')) :
    out.shape = t.handle := by
  unfold oneHop at h
  split at h
  · next hv =>
    cases h
    simpa [Value.satisfies, Convention.isSatisfiedBy, eq_comm] using hv
  · split at h
    · next o ho =>
      cases h
      exact congrArg Outline.shape (outline_of_boundInvoke? ho).1
    · split at h
      · next c hc =>
        have htarget : c.target = t.handle ∧ c.accepts v = true := by
          simpa using List.find?_some hc
        obtain ⟨o, s₁, ho, h⟩ := Assembly.exists_of_exec_bind h
        cases h
        obtain ⟨k, rfl, hk⟩ := Routine.exists_of_invoke ho
        rw [← htarget.1, ← (hedges c (List.mem_of_find?_eq_some hc)).out_eq]
        exact hk
      · cases h

/-- What a longer way gives has the shape of the target. -/
lemma shape_of_through (rest : List Conversion)
    (h : (through edges v t rest).exec s = (.ok (some (out, n)), s')) : out.shape = t.handle := by
  induction rest generalizing s with
  | nil => cases h
  | cons c rest ih =>
    obtain ⟨found, s₁, -, h⟩ := Assembly.exists_of_exec_bind h
    cases found with
    | none => exact ih h
    | some staged =>
      obtain ⟨middle, s₂, -, h⟩ := Assembly.exists_of_exec_bind h
      obtain ⟨last, s₃, hlast, h⟩ := Assembly.exists_of_exec_bind h
      cases last with
      | none => exact ih h
      | some last =>
        cases h
        exact shape_of_oneHop hedges hlast

/-- What a conversion gives has the handle of its target. -/
lemma shape_of_convert (h : (convert edges v t).exec s = (.ok out, s')) :
    out.shape = t.handle := by
  obtain ⟨found, s₁, hsearch, h⟩ := Assembly.exists_of_exec_bind h
  cases found with
  | none => cases h
  | some found =>
    cases h
    obtain ⟨first, s₂, hfirst, hsearch⟩ := Assembly.exists_of_exec_bind hsearch
    cases first with
    | none => exact shape_of_through hedges _ hsearch
    | some first =>
      cases hsearch
      exact shape_of_oneHop hedges hfirst

end Handle

end Pipework
