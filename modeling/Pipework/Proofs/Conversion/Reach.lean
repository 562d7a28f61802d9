import Pipework.Proofs.Conversion.Plan

set_option autoImplicit false

/-!
# What a conversion reaches

The search never goes back on a choice: it takes the first way to the start of an edge and the first
edge that closes the way. Nevertheless it finds a way whenever there is one of at most three edges,
because whether the rest of a way can be gone depends on the type at which it starts and on nothing
else.

## Main definitions

* `Value.Offers` — the handles of the callable `Invoke` operations of a component.
* `Chain` — registered edges that follow one another.
* `Value.Reaches` — the conventions that a value can be brought to in at most three edges, said
  without the search.

## Main results

* `Outline.isSome_plan?_iff_reaches` — there is a plan exactly for the conventions within reach.
* `convert_ok_iff_reaches` — the conversion of a value succeeds exactly for the conventions within
  reach. It fails with the shape of the value and the target, and in no other way.
-/

namespace Pipework

/-! ## Ways of edges -/

/-- A component has a callable `Invoke` operation of handle `h`. -/
def Value.Offers (v : Value) (h : Shape) : Prop :=
  ∃ i, v = .component i ∧ ∃ o ∈ i.operations,
    o.name = invokeName ∧ o.convention.isCallable = true ∧ o.convention.handle = h

/-- What a component offers is in its outline. -/
lemma Value.offers_iff {v : Value} {h : Shape} : v.Offers h ↔ h ∈ v.outline.invokes := by
  unfold Offers
  cases v with
  | component i =>
    simp [Value.outline, Value.invokes, Value.component?, Instance.named, and_assoc, and_left_comm]
  | _ => simp [Value.outline, Value.invokes, Value.component?]

/-- Registered edges, each of which starts where the one before it ends, up to `t`. -/
inductive Chain (edges : List Conversion) (t : Shape) : List Conversion → Prop
  | last {c : Conversion} (hc : c ∈ edges) (ht : c.target = t) : Chain edges t [c]
  | link {c d : Conversion} {cs : List Conversion} (hc : c ∈ edges)
      (hd : d.startsAt c.target = true) (rest : Chain edges t (d :: cs)) :
      Chain edges t (c :: d :: cs)

/-- The conventions that a value can be brought to in at most three edges. -/
inductive Value.Reaches (edges : List Conversion) (v : Value) (t : Convention) : Prop
  /-- The value has the shape of the target. -/
  | already (h : v.shape = t.handle)
  /-- The value is a component that offers the target. -/
  | bound (h : v.Offers t.handle)
  /-- Up to three edges lead from the value to the target. -/
  | along {c : Conversion} {cs : List Conversion} (hlen : (c :: cs).length ≤ 3)
      (hc : c.startsAt v.shape = true) (h : Chain edges t.handle (c :: cs))
  /-- Up to two edges lead from a handle that the value offers to the target. -/
  | boundAlong {c : Conversion} {cs : List Conversion} (hlen : (c :: cs).length ≤ 2)
      (hc : v.Offers c.source) (h : Chain edges t.handle (c :: cs))

/-! ## When there is a plan -/

namespace Conversion

/-- An edge starts at a shape that is its source, or it starts anywhere. -/
lemma startsAt_iff {c : Conversion} {s : Shape} :
    c.startsAt s = true ↔ s = c.source ∨ c.source = .value := by
  simp [startsAt]

end Conversion

namespace Outline

variable {edges : List Conversion} {x : Outline} {t : Shape} {e : Conversion}

/-- There is a step to a shape that is there, to one that an operation gives, and along an edge. -/
lemma isSome_step? : (x.step? edges t).isSome = true ↔
    x.shape = t ∨ t ∈ x.invokes ∨ ∃ c ∈ edges, c.target = t ∧ c.startsAt x.shape = true := by
  unfold step?
  split
  · next h => simp [h]
  · next h =>
    split
    · next h' => simp [h']
    · next h' => simp [h, h']

/-- An edge can be approached if it starts here or its source is one step away. -/
lemma isSome_approach? : (x.approach? edges e).isSome = true ↔
    e.startsAt x.shape = true ∨ (x.step? edges e.source).isSome = true := by
  unfold approach?
  split
  · next h => simp [h]
  · next h => simp [h]

/-- A way along an edge is an approach to it and a step from its target. -/
lemma isSome_via? : (x.via? edges t e).isSome = true ↔
    (x.approach? edges e).isSome = true ∧ ((plain e.target).step? edges t).isSome = true := by
  unfold via? trial?
  cases x.approach? edges e with
  | none => simp
  | some w => simp

/-- There is a plan if there is a step or a way along some edge. -/
lemma isSome_plan? : (x.plan? edges t).isSome = true ↔
    (x.step? edges t).isSome = true ∨ ∃ e ∈ edges, (x.via? edges t e).isSome = true := by
  unfold plan?
  cases x.step? edges t with
  | none => simp [List.findSome?_isSome_iff]
  | some w => simp

end Outline

section Reach

variable {edges : List Conversion} {v : Value} {t : Convention}

/-- From plain data of the type at the end of an edge, a hop goes nowhere or takes one edge. -/
lemma Chain.of_hop {e : Conversion} {s : Shape} (he : e ∈ edges)
    (h : ((Outline.plain e.target).step? edges s).isSome = true) :
    ∃ cs, cs.length ≤ 1 ∧ Chain edges s (e :: cs) := by
  obtain hs | hs | ⟨c, hc, ht, hstart⟩ := Outline.isSome_step?.1 h
  · exact ⟨[], by simp, .last he hs⟩
  · exact absurd hs List.not_mem_nil
  · exact ⟨[c], by simp, .link he hstart (.last hc ht)⟩

/-- Where a plan leads is within reach. -/
lemma reaches_of_plan (h : (v.outline.plan? edges t.handle).isSome = true) :
    v.Reaches edges t := by
  obtain hstep | ⟨e, he, hvia⟩ := Outline.isSome_plan?.1 h
  · obtain hs | hs | ⟨c, hc, ht, hstart⟩ := Outline.isSome_step?.1 hstep
    · exact .already hs
    · exact .bound (Value.offers_iff.2 hs)
    · exact .along (by simp) hstart (.last hc ht)
  · obtain ⟨hpre, hpost⟩ := Outline.isSome_via?.1 hvia
    obtain ⟨cs, hlen, hchain⟩ := Chain.of_hop he hpost
    have along (hs : e.startsAt v.shape = true) : v.Reaches edges t :=
      .along (by simp only [List.length_cons]; omega) hs hchain
    obtain hs | hpre := Outline.isSome_approach?.1 hpre
    · exact along hs
    · obtain hs | hs | ⟨c, hc, ht, hstart⟩ := Outline.isSome_step?.1 hpre
      · exact along (Conversion.startsAt_iff.2 (.inl hs))
      · exact .boundAlong (by simp only [List.length_cons]; omega) (Value.offers_iff.2 hs) hchain
      · have hlink : e.startsAt c.target = true := Conversion.startsAt_iff.2 (.inl ht)
        exact .along (by simp only [List.length_cons]; omega) hstart (.link hc hlink hchain)

/-- The middle of a way makes a plan: its start can be approached, and one hop leads on from its
end. -/
lemma isSome_plan?_of_middle {e : Conversion} (he : e ∈ edges)
    (hpre : (v.outline.approach? edges e).isSome = true)
    (hpost : ((Outline.plain e.target).step? edges t.handle).isSome = true) :
    (v.outline.plan? edges t.handle).isSome = true :=
  Outline.isSome_plan?.2 (.inr ⟨e, he, Outline.isSome_via?.2 ⟨hpre, hpost⟩⟩)

/-- What is within reach has a plan.

**Proof sketch.** Of three edges the second one is the middle that the search passes through; of two
edges the first one is. A first edge before the middle ends where the middle starts, unless the
middle starts anywhere, and then it starts at the value as well. -/
lemma plan_of_reaches (h : v.Reaches edges t) :
    (v.outline.plan? edges t.handle).isSome = true := by
  have hop {x : Outline} {c : Conversion} (hc : c ∈ edges) (ht : c.target = t.handle)
      (hs : c.startsAt x.shape = true) : (x.step? edges t.handle).isSome = true :=
    Outline.isSome_step?.2 (.inr (.inr ⟨c, hc, ht, hs⟩))
  cases h with
  | already h => exact Outline.isSome_plan?.2 (.inl (Outline.isSome_step?.2 (.inl h)))
  | bound h =>
    exact Outline.isSome_plan?.2
      (.inl (Outline.isSome_step?.2 (.inr (.inl (Value.offers_iff.1 h)))))
  | along hlen hc h =>
    rcases h with ⟨hmem, ht⟩ | ⟨hmem, hd, ⟨hmem', ht⟩ | ⟨hmem', hd', ⟨hmem'', ht⟩ | _⟩⟩
    · exact Outline.isSome_plan?.2 (.inl (hop hmem ht hc))
    · exact isSome_plan?_of_middle hmem (Outline.isSome_approach?.2 (.inl hc)) (hop hmem' ht hd)
    · refine isSome_plan?_of_middle hmem' (Outline.isSome_approach?.2 ?_) (hop hmem'' ht hd')
      rcases Conversion.startsAt_iff.1 hd with hsource | hany
      · exact .inr (Outline.isSome_step?.2 (.inr (.inr ⟨_, hmem, hsource, hc⟩)))
      · exact .inl (Conversion.startsAt_iff.2 (.inr hany))
    · simp only [List.length_cons] at hlen
      omega
  | boundAlong hlen hc h =>
    have hpre : ∀ c : Conversion, v.Offers c.source →
        (v.outline.approach? edges c).isSome = true := fun c hc =>
      Outline.isSome_approach?.2
        (.inr (Outline.isSome_step?.2 (.inr (.inl (Value.offers_iff.1 hc)))))
    rcases h with ⟨hmem, ht⟩ | ⟨hmem, hd, ⟨hmem', ht⟩ | _⟩
    · exact isSome_plan?_of_middle hmem (hpre _ hc) (Outline.isSome_step?.2 (.inl ht))
    · exact isSome_plan?_of_middle hmem (hpre _ hc) (hop hmem' ht hd)
    · simp only [List.length_cons] at hlen
      omega

/-- There is a plan exactly for the conventions within reach. -/
theorem Outline.isSome_plan?_iff_reaches :
    (v.outline.plan? edges t.handle).isSome = true ↔ v.Reaches edges t :=
  ⟨reaches_of_plan, plan_of_reaches⟩

end Reach

/-! ## What the search finds -/

/-- **The search is sound and complete up to three edges.** In a filled registry a conversion
succeeds exactly for the conventions within reach, and gives a value of the handle of the target.
Its only failure is that there is no conversion. -/
theorem convert_ok_iff_reaches {r : Registry} (hr : r.Filled) {v : Value}
    (hv : v.isComponentType = false) (t : Convention) (s : State) :
    ((∃ out, ((convert r.edges v t).exec s).1 = .ok out) ↔ v.Reaches r.edges t) ∧
    (∀ out, ((convert r.edges v t).exec s).1 = .ok out → out.shape = t.handle) ∧
    ∀ e, ((convert r.edges v t).exec s).1 = .error e → e = .noConversion v.shape t := by
  rw [← Outline.isSome_plan?_iff_reaches]
  cases hplan : v.outline.plan? r.edges t.handle with
  | none =>
    obtain ⟨s', h⟩ := convert_of_no_plan hr.sound hv hplan s
    simp [h]
  | some w =>
    obtain ⟨out, s', h, hout, -⟩ := convert_of_plan hr.sound hv hplan s
    have hshape : out.shape = t.handle := by
      rw [← Value.shape_outline, hout, Outline.shape_arrive]
    simp [h, hshape]

/-- Three edges lead from `A` to `D`. -/
theorem convert_ok_iff_reaches_three_edges :
    (tokenRegistry [(.c, .d), (.b, .c), (.a, .b)]).Filled ∧
    (Value.data (.datum (.token .a "x"))).isComponentType = false ∧
    ∃ out, ((convert (tokenRegistry [(.c, .d), (.b, .c), (.a, .b)]).edges
      (.data (.datum (.token .a "x"))) (.object (.atom (.token .d)))).exec .initial).1 = .ok out ∧
      out.shape = .atom (.token .d) := by
  refine ⟨tokenRegistry_filled _, rfl, ?_⟩
  obtain ⟨hreach, hshape, -⟩ :=
    convert_ok_iff_reaches (tokenRegistry_filled [(.c, .d), (.b, .c), (.a, .b)])
      (v := .data (.datum (.token .a "x"))) rfl (.object (.atom (.token .d))) .initial
  have hchain : Chain (tokenRegistry [(.c, .d), (.b, .c), (.a, .b)]).edges (.atom (.token .d))
      [tokenEdge .a .b, tokenEdge .b .c, tokenEdge .c .d] := by
    refine .link ?_ rfl (.link ?_ rfl (.last ?_ rfl))
    · exact .tail _ (.tail _ (.head _))
    · exact .tail _ (.head _)
    · exact .head _
  obtain ⟨out, hout⟩ := hreach.2 (.along (by simp) rfl hchain)
  exact ⟨out, hout, hshape out hout⟩

end Pipework
