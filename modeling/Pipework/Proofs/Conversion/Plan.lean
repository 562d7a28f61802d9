import Pipework.Proofs.Conversion.Outline

set_option autoImplicit false

/-!
# The search follows a plan

The search tries trails and converts while it tries them, so that a conversion made on the way to a
dead end is made for good. Nevertheless everything that it does is known before it starts: which
trails it follows in vain, which one it ends with, and which edges it takes in which order. The
edges that converters add while they run do not matter to the search that runs them.

## Main definitions

* `planned` — the search with all its choices made in advance.
* `rehearse` — following trails for nothing but what the converters on them do.
* `Sends` — a run of some converters, one after the other.

## Main results

* `oneHop_eq`, `through_eq`, `search_eq` — the parts of the search, with their choices made in
  advance.
* `convert_eq_planned` — the search is the planned one.
* `convert_executes_plan` — the same for a filled registry, with the outcome, the number of edges
  and the converters that are run.
-/

namespace Pipework

/-! ## The parts of the search -/

/-- What a trail gives, with the number of its edges. -/
def Trail.count (w : Trail) (v : Value) : Assembly (Option (Value × Nat)) := do
  let out ← w.run v
  pure (some (out, w.edges.length))

/-- What comes after a trail that is counted goes on from its result and the number of its edges. -/
lemma Trail.count_bind {α : Type} (w : Trail) (v : Value)
    (f : Option (Value × Nat) → Assembly α) :
    w.count v >>= f = w.run v >>= fun out => f (some (out, w.edges.length)) := by
  simp [Trail.count]

/-- Follows trails one after the other for nothing but what the converters on them do. -/
def rehearse (v : Value) : List Trail → Assembly Unit
  | [] => pure ()
  | w :: trails => do
    discard (w.run v)
    rehearse v trails

/-- A hop is known in advance. -/
lemma oneHop_eq (edges : List Conversion) (v : Value) (t : Convention) :
    oneHop edges v t = match v.outline.step? edges t.handle with
      | some w => w.count v
      | none => pure none := by
  unfold oneHop Outline.step?
  by_cases hs : v.shape = t.handle
  · simp [Value.satisfies, Convention.isSatisfiedBy, hs, Trail.count, Trail.run, Trail.origin]
  have hsat : v.satisfies t = false := by
    simpa [Value.satisfies, Convention.isSatisfiedBy, eq_comm] using hs
  rw [hsat, Value.shape_outline, if_neg hs]
  cases ho : boundInvoke? v t with
  | some o =>
    have hmem : t.handle ∈ v.outline.invokes := (isSome_boundInvoke? v t).1 (by simp [ho])
    simp [hmem, Trail.count, Trail.run_nil, Trail.origin_of_boundInvoke? ho]
  | none =>
    have hmem : t.handle ∉ v.outline.invokes := by
      rw [← isSome_boundInvoke? v t, ho]
      simp
    rw [if_neg hmem, if_neg Bool.false_ne_true]
    have hfind : (edges.find? fun c => c.target = t.handle && c.startsAt v.shape) =
        directEdge? edges v t := rfl
    rw [hfind]
    cases directEdge? edges v t with
    | none => rfl
    | some c => simp [Trail.count, Trail.run_single]

/-- The trail to the start of an edge is known in advance. -/
lemma approach_eq (edges : List Conversion) (v : Value) (e : Conversion) :
    approach edges v e = match v.outline.approach? edges e with
      | some w => w.count v
      | none => pure none := by
  unfold approach Outline.approach?
  rw [Conversion.accepts_eq, Value.shape_outline]
  split
  · rfl
  · exact oneHop_eq edges v (.object e.source)

/-- One hop from the end of an edge. -/
lemma oneHop_middle (edges : List Conversion) {middle : Value} {e : Conversion} (t : Convention)
    (h : middle.outline = .plain e.target) :
    oneHop edges middle t = match (Outline.plain e.target).step? edges t.handle with
      | some w => do
        let out ← w.edges.foldlM (fun u c => c.apply u) middle
        pure (some (out, w.edges.length))
      | none => pure none := by
  rw [oneHop_eq, h]
  cases hstep : (Outline.plain e.target).step? edges t.handle with
  | none => rfl
  | some w => simp [Trail.count, Trail.run, Trail.origin, Outline.start_of_step?_plain hstep]

/-- The trails along the edges of `rest`: first the losing ones, then the one that leads to the
target.

**Proof sketch.** Induction on `rest`. An edge whose start is out of reach is passed over. Of every
other edge the value behind it is plain data of a known type (`Trail.run_trial_yields`), so that the
hop behind it is known before the edge is taken: either there is none and the trail was in vain, or
the search ends here. -/
lemma through_eq {edges : List Conversion} (hedges : ∀ c ∈ edges, c.Sound) {v : Value}
    (hv : v.isComponentType = false) (t : Convention) :
    ∀ rest, (∀ e ∈ rest, e ∈ edges) →
      through edges v t rest = (do
        rehearse v ((rest.takeWhile fun e => (v.outline.via? edges t.handle e).isNone).filterMap
          (v.outline.trial? edges))
        match rest.findSome? (v.outline.via? edges t.handle) with
        | some w => w.count v
        | none => pure none) := by
  intro rest
  induction rest with
  | nil => intro _; simp [through, rehearse]
  | cons e rest ih =>
    intro hrest
    have he : e ∈ edges := hrest e List.mem_cons_self
    have ih := ih fun d hd => hrest d (List.mem_cons_of_mem _ hd)
    unfold through
    rw [approach_eq]
    cases hpre : v.outline.approach? edges e with
    | none =>
      have htrial : v.outline.trial? edges e = none := by simp [Outline.trial?, hpre]
      have hvia : v.outline.via? edges t.handle e = none := by simp [Outline.via?, htrial]
      simp [hvia, htrial, ih]
    | some w =>
      have htrial : v.outline.trial? edges e = some (w.append [e]) := by
        simp [Outline.trial?, hpre]
      have hmiddle := Trail.run_trial_yields hedges hv he htrial
      have hrun : (w.append [e]).run v = w.run v >>= e.apply := by simp [Trail.run_append]
      rw [hrun] at hmiddle
      -- the hop behind the edge is chosen before the edge is taken
      have hhop : ∀ middle : Value,
          middle.outline = .plain e.target ∧ middle.isComponentType = false →
          oneHop edges middle t = _ := fun middle h => oneHop_middle edges t h.1
      rw [Trail.count_bind]
      simp only
      rw [← bind_assoc, hmiddle.bind_congr fun middle h => by rw [hhop middle h]]
      cases hpost : (Outline.plain e.target).step? edges t.handle with
      | none =>
        have hvia : v.outline.via? edges t.handle e = none := by
          simp [Outline.via?, htrial, hpost]
        simp only [pure_bind, ih, List.takeWhile_cons, List.findSome?_cons, hvia,
          Option.isNone_none, if_true, List.filterMap_cons_some htrial, rehearse, hrun, bind_assoc,
          Assembly.discard_bind]
      | some post =>
        have hvia : v.outline.via? edges t.handle e = some (w.append (e :: post.edges)) := by
          simp [Outline.via?, htrial, hpost, Trail.append]
        have hcount : (w.append (e :: post.edges)).edges.length =
            w.edges.length + 1 + post.edges.length := by
          simp only [Trail.append, List.length_append, List.length_cons]
          omega
        simp only [List.takeWhile_cons, List.findSome?_cons, hvia, Option.isNone_some,
          Bool.false_eq_true, if_false, List.filterMap_nil, rehearse, pure_bind, bind_assoc,
          Trail.count, Trail.run_append, List.foldlM_cons, hcount]

/-- The search is known in advance. -/
lemma search_eq {edges : List Conversion} (hedges : ∀ c ∈ edges, c.Sound) {v : Value}
    (hv : v.isComponentType = false) (t : Convention) :
    search edges v t = (do
      rehearse v (v.outline.losing edges t.handle)
      match v.outline.plan? edges t.handle with
      | some w => w.count v
      | none => pure none) := by
  unfold search Outline.losing Outline.plan?
  rw [oneHop_eq]
  cases v.outline.step? edges t.handle with
  | some w => simp [Trail.count, rehearse]
  | none =>
    rw [pure_bind]
    exact through_eq hedges hv t edges fun e he => he

/-! ## The whole conversion -/

/-- A conversion with all its choices made in advance: the losing trails are followed first, then
the plan; only the plan is reported and counted. -/
def planned (edges : List Conversion) (v : Value) (t : Convention) : Assembly Value := do
  rehearse v (v.outline.losing edges t.handle)
  match v.outline.plan? edges t.handle with
  | some w => do
    let out ← w.run v
    Engine.report (.converted v.shape t w.edges.length)
    Engine.raise (.conversion w.edges.length) 1
    pure out
  | none => do
    Engine.report (.noConversion v.shape t)
    Engine.raise .conversionFailure 1
    throw (.noConversion v.shape t)

/-- The search does what was planned. -/
lemma convert_eq_planned {edges : List Conversion} (hedges : ∀ c ∈ edges, c.Sound) {v : Value}
    (hv : v.isComponentType = false) (t : Convention) :
    convert edges v t = planned edges v t := by
  unfold convert planned
  rw [search_eq hedges hv t, bind_assoc]
  congr 1
  funext _
  cases v.outline.plan? edges t.handle with
  | none => simp
  | some w => simp only [Trail.count_bind]

/-- Following trails that can be followed does not fail. -/
lemma rehearse_yields {v : Value} {trails : List Trail}
    (h : ∀ w ∈ trails, (w.run v).Yields fun _ => True) :
    (rehearse v trails).Yields fun _ => True := by
  induction trails with
  | nil => exact .pure trivial
  | cons w trails ih =>
    rw [rehearse, Assembly.discard_bind]
    exact (h w List.mem_cons_self).bind fun _ _ =>
      ih fun w' hw' => h w' (List.mem_cons_of_mem _ hw')

/-- Every losing trail can be followed to its end. -/
lemma run_losing_yields {edges : List Conversion} (hedges : ∀ c ∈ edges, c.Sound) {v : Value}
    (hv : v.isComponentType = false) {t : Shape} {w : Trail}
    (h : w ∈ v.outline.losing edges t) : (w.run v).Yields fun _ => True := by
  unfold Outline.losing at h
  split at h
  · cases h
  · obtain ⟨e, he, htrial⟩ := List.mem_filterMap.1 h
    exact (Trail.run_trial_yields hedges hv (List.takeWhile_subset _ he) htrial).mono
      fun _ _ => trivial

section Outcome

variable {edges : List Conversion} (hedges : ∀ c ∈ edges, c.Sound) {v : Value}
  (hv : v.isComponentType = false) {t : Convention}

include hedges hv

/-- With a plan a conversion succeeds, and the outline of what it gives is known. -/
lemma convert_of_plan {w : Trail} (h : v.outline.plan? edges t.handle = some w) :
    (convert edges v t).Yields fun out =>
      out.outline = v.outline.arrive t.handle ∧ out.isComponentType = false := by
  rw [convert_eq_planned hedges hv, planned, h]
  refine (rehearse_yields fun w hw => run_losing_yields hedges hv hw).bind fun _ _ => ?_
  refine (Trail.run_plan_yields hedges hv h).bind fun out hout s => ?_
  exact ⟨out, _, rfl, hout⟩

/-- Without a plan a conversion fails, and names the value and the target. -/
lemma convert_of_no_plan (h : v.outline.plan? edges t.handle = none) (s : State) :
    ∃ s', (convert edges v t).exec s = (.error (.noConversion v.shape t), s') := by
  rw [convert_eq_planned hedges hv, planned, h]
  obtain ⟨_, s₀, hr, -⟩ := rehearse_yields (fun w hw => run_losing_yields hedges hv hw) s
  rw [Assembly.exec_bind_ok hr]
  exact ⟨_, rfl⟩

end Outcome

namespace Outline

variable {edges : List Conversion} {x : Outline} {t : Shape} {w : Trail}

/-- A step has one edge at most. -/
lemma length_step?_le (h : x.step? edges t = some w) : w.edges.length ≤ 1 := by
  unfold step? at h
  split at h
  · cases h
    simp
  · split at h
    · cases h
      simp
    · obtain ⟨c, -, rfl⟩ := Option.map_eq_some_iff.1 h
      simp

/-- An approach has one edge at most. -/
lemma length_approach?_le {e : Conversion} (h : x.approach? edges e = some w) :
    w.edges.length ≤ 1 := by
  unfold approach? at h
  split at h
  · cases h
    simp
  · exact length_step?_le h

/-- No plan takes more than three edges. -/
lemma length_plan?_le (h : x.plan? edges t = some w) : w.edges.length ≤ 3 := by
  unfold plan? at h
  split at h
  · next w' hw =>
    cases h
    have := length_step?_le hw
    omega
  · obtain ⟨e, -, hvia⟩ := List.exists_of_findSome?_eq_some h
    obtain ⟨first, htrial, hpost⟩ := Option.bind_eq_some_iff.1 hvia
    obtain ⟨post, hstep, rfl⟩ := Option.map_eq_some_iff.1 hpost
    obtain ⟨pre, hpre, rfl⟩ := Option.map_eq_some_iff.1 htrial
    have h₁ := length_approach?_le hpre
    have h₂ := length_step?_le hstep
    simp only [Trail.append, List.length_append, List.length_cons, List.length_nil]
    omega

end Outline

/-! ## The converters that run -/

/-- Running converters one after the other, each on some value, leads from a state to another. -/
inductive Sends : List Conversion → State → State → Prop
  | nil (s : State) : Sends [] s s
  | cons {c : Conversion} {cs : List Conversion} {u out : Value} {s s₁ s' : State}
      (h : (c.apply u).exec s = (.ok out, s₁)) (rest : Sends cs s₁ s') : Sends (c :: cs) s s'

/-- Conversions that are sent one after the other are sent together. -/
lemma Sends.append {cs ds : List Conversion} {s s₁ s' : State} (h : Sends cs s s₁)
    (h' : Sends ds s₁ s') : Sends (cs ++ ds) s s' := by
  induction h with
  | nil => exact h'
  | cons hc _ ih => exact .cons hc (ih h')

/-- Following a trail runs the converters on it. -/
lemma Trail.sends_of_run {w : Trail} {v out : Value} {s s' : State}
    (h : (w.run v).exec s = (.ok out, s')) : Sends w.edges s s' := by
  unfold run at h
  generalize w.origin v = u at h
  generalize w.edges = es at h ⊢
  induction es generalizing u s with
  | nil =>
    cases h
    exact .nil _
  | cons c cs ih =>
    rw [List.foldlM_cons, Assembly.exec_bind] at h
    split at h
    · next u' s₁ hc => exact .cons hc (ih _ h)
    · cases h

/-- Following trails runs the converters on them. -/
lemma sends_of_rehearse {v : Value} {trails : List Trail} {s s' : State}
    (h : (rehearse v trails).exec s = (.ok ⟨⟩, s')) :
    Sends (trails.flatMap Trail.edges) s s' := by
  induction trails generalizing s with
  | nil =>
    cases h
    exact .nil _
  | cons w trails ih =>
    rw [rehearse, Assembly.discard_bind, Assembly.exec_bind] at h
    split at h
    · next out s₁ hw => exact (Trail.sends_of_run hw).append (ih h)
    · cases h

/-- **A conversion executes its plan once.** The losing trails are followed first, and after them
the plan, from the state that they have led to. What the plan gives is the result, the number of its
edges, at most three, is what is reported and counted, and no other converter runs. Without a plan
the conversion fails. A registry that changes meanwhile makes no difference. -/
theorem convert_executes_plan {r : Registry} (hr : r.Filled) {v : Value}
    (hv : v.isComponentType = false) (t : Convention) (s : State) :
    (∀ k, s.registry k = r →
      (convertIn k v t).exec s = (convert r.edges v t).exec s) ∧
    ∃ s₀, (rehearse v (v.outline.losing r.edges t.handle)).exec s = (.ok ⟨⟩, s₀) ∧
      Sends ((v.outline.losing r.edges t.handle).flatMap Trail.edges) s s₀ ∧
      match v.outline.plan? r.edges t.handle with
      | some w => ∃ out s₁, (w.run v).exec s₀ = (.ok out, s₁) ∧ Sends w.edges s₀ s₁ ∧
          w.edges.length ≤ 3 ∧
          (convert r.edges v t).exec s = (.ok out, { s₁ with
            events := s₁.events ++ [.converted v.shape t w.edges.length]
            tally := s₁.tally.raise (.conversion w.edges.length) 1 })
      | none => (convert r.edges v t).exec s = (.error (.noConversion v.shape t), { s₀ with
            events := s₀.events ++ [.noConversion v.shape t]
            tally := s₀.tally.raise .conversionFailure 1 }) := by
  have hedges := hr.sound
  refine ⟨fun k hk => by rw [convertIn, Assembly.exec_get_bind, hk], ?_⟩
  obtain ⟨_, s₀, hlosing, -⟩ :=
    rehearse_yields (fun w (hw : w ∈ v.outline.losing r.edges t.handle) =>
      run_losing_yields hedges hv hw) s
  refine ⟨s₀, hlosing, sends_of_rehearse hlosing, ?_⟩
  rw [convert_eq_planned hedges hv t, planned, Assembly.exec_bind_ok hlosing]
  cases hplan : v.outline.plan? r.edges t.handle with
  | none =>
    rw [Assembly.exec_lift_bind, Assembly.exec_lift_bind]
    rfl
  | some w =>
    obtain ⟨out, s₁, hrun, -⟩ := Trail.run_plan_yields hedges hv hplan s₀
    refine ⟨out, s₁, hrun, Trail.sends_of_run hrun, Outline.length_plan?_le hplan, ?_⟩
    rw [Assembly.exec_bind_ok hrun, Assembly.exec_lift_bind, Assembly.exec_lift_bind]
    rfl

/-- On the way from `A` to `D` the edge to `B` is taken in vain. -/
theorem convert_executes_plan_past_dead_end :
    (tokenRegistry [(.a, .b), (.a, .c), (.c, .d)]).Filled ∧
    (Value.data (.datum (.token .a "x"))).isComponentType = false ∧
    ∃ s₀ out s₁, Sends [tokenEdge .a .b] .initial s₀ ∧
      Sends [tokenEdge .a .c, tokenEdge .c .d] s₀ s₁ ∧
      (convert (tokenRegistry [(.a, .b), (.a, .c), (.c, .d)]).edges
        (.data (.datum (.token .a "x"))) (.object (.atom (.token .d)))).exec .initial =
        (.ok out, { s₁ with
          events := s₁.events ++ [.converted (.atom (.token .a)) (.object (.atom (.token .d))) 2]
          tally := s₁.tally.raise (.conversion 2) 1 }) := by
  refine ⟨tokenRegistry_filled _, rfl, ?_⟩
  obtain ⟨-, s₀, -, hlosing, out, s₁, -, hplan, -, hout⟩ :=
    convert_executes_plan (tokenRegistry_filled [(.a, .b), (.a, .c), (.c, .d)])
      (v := .data (.datum (.token .a "x"))) rfl (.object (.atom (.token .d))) .initial
  exact ⟨s₀, out, s₁, hlosing, hplan, hout⟩

end Pipework
