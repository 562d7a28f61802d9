import Pipework.Proofs.Conversion.Plan
import Pipework.Proofs.Engine.Within

set_option autoImplicit false

/-!
# The account of a conversion

A conversion can end in three ways. It finds a trail, and is counted once, under the number of edges
of that trail; it finds none, and is counted once as a failure; or a converter does not take what it
is given, and nothing is counted. The trails that were followed in vain before are not counted.

## Main definitions

* `Assembly.FailsByArgument` — a computation that fails by an argument if at all.
* `Trail.Serves` — a trail that a search can end with.

## Main results

* `exists_trail_of_search` — a search that succeeds has followed a trail to its end.
* `exec_convert` — the three ways in which a conversion ends, and what is counted in each.
-/

namespace Pipework

variable {α β : Type}

/-! ## Failures -/

/-- Whatever the state, the computation fails by an argument if it fails at all. -/
def Assembly.FailsByArgument (x : Assembly α) : Prop :=
  ∀ s e s', x.exec s = (.error e, s') → e.kind = .argument

namespace Assembly.FailsByArgument

/-- A success does not fail, so it fails by an argument only. -/
lemma pure (a : α) : Assembly.FailsByArgument (Pure.pure a) := nofun

/-- Neither does what cannot fail. -/
lemma lift (x : Engine α) : Assembly.FailsByArgument (liftM x) := by
  intro s e s' h
  rw [exec_lift] at h
  cases h

/-- A sequence fails by an argument only if its parts do. -/
lemma bind {x : Assembly α} {f : α → Assembly β} (hx : x.FailsByArgument)
    (hf : ∀ a, (f a).FailsByArgument) : Assembly.FailsByArgument (x >>= f) := by
  intro s e s' h
  rw [exec_bind] at h
  split at h
  · next a s₁ _ => exact hf a s₁ e s' h
  · next e' s₁ hx' =>
    cases h
    exact hx s e s' hx'

/-- Failing by an argument only passes through sequences. -/
lemma passes : Assembly.Passes fun _ x => Assembly.FailsByArgument x := ⟨pure, bind⟩

end Assembly.FailsByArgument

/-- An argument that cannot be taken out of its value is a failure of that argument. -/
lemma kind_of_extractList {e : BuildError} {params : List Shape} {args : Args} {index : Nat}
    (h : extractList index params args = .error e) : e.kind = .argument := by
  induction params generalizing args index with
  | nil => cases args <;> cases h
  | cons p params ih =>
    cases args with
    | nil => cases h
    | cons v args =>
      unfold extractList at h
      split at h
      · next e' he =>
        cases h
        unfold extractFrom at he
        split at he
        · cases he
        · split at he
          · cases he
          · cases he
            rfl
      · split at h
        · next e' he =>
          cases h
          exact ih he
        · cases h

/-- Extracting arguments fails by an argument only. -/
lemma failsByArgument_extractAll (params : List Shape) (args : Args) :
    (Assembly.ofExcept (extractAll params args)).FailsByArgument := by
  intro s e s' h
  have h : extractAll params args = .error e := (Prod.mk.inj h).1
  unfold extractAll at h
  split at h
  · cases h
    rfl
  · exact kind_of_extractList h

/-- A call fails by one of its arguments if at all: what the routine does cannot fail. -/
lemma Routine.failsByArgument_invoke (r : Routine) (args : Args) :
    (r.invoke args).FailsByArgument :=
  (failsByArgument_extractAll _ _).bind fun _ =>
    (Assembly.FailsByArgument.lift _).bind fun _ => .pure _

/-- Constructing a component fails by an argument only. -/
lemma ComponentType.failsByArgument_constructWith (t : ComponentType) (params : List Shape)
    (args : Args) : (t.constructWith params args).FailsByArgument :=
  (failsByArgument_extractAll _ _).bind fun _ =>
    (Assembly.FailsByArgument.lift _).bind fun _ => .pure _

/-- Applying a stage fails by an argument if at all. -/
lemma Stage.failsByArgument_apply (st : Stage) (next : Value) :
    (st.apply next).FailsByArgument := by
  unfold Stage.apply
  cases st.factory with
  | callable r => exact r.failsByArgument_invoke _
  | told r component =>
    have hdiscard : (discard (r.invoke (next :: st.args)) : Assembly Unit).FailsByArgument :=
      (r.failsByArgument_invoke _).bind fun _ => .pure _
    exact hdiscard.bind fun _ => .pure _
  | invoke r => exact r.failsByArgument_invoke _
  | construct t params => exact t.failsByArgument_constructWith params _

/-- A search fails by the argument of a converter if at all. That there is no way is no failure of
the search. -/
lemma failsByArgument_search (edges : List Conversion) (v : Value) (t : Convention) :
    (search edges v t).FailsByArgument :=
  passes_search Assembly.FailsByArgument.passes
    (fun c _ v => c.routine.failsByArgument_invoke [v]) v t

/-! ## The trail that a search ends with -/

/-- A trail that a search for `t` along `edges` can end with: it takes up to three of the edges, and
is the plan wherever searches follow plans. -/
structure Trail.Serves (edges : List Conversion) (v : Value) (t : Convention) (w : Trail) :
    Prop where
  subset : ∀ c ∈ w.edges, c ∈ edges
  length_le : w.edges.length ≤ 3
  plan_eq : (∀ c ∈ edges, c.Sound) → v.isComponentType = false →
    v.outline.plan? edges t.handle = some w

namespace Outline

variable {edges : List Conversion} {x : Outline} {t : Shape} {w : Trail}

/-- A step goes along edges of the registry. -/
lemma subset_of_step? (h : x.step? edges t = some w) : ∀ c ∈ w.edges, c ∈ edges := by
  unfold step? at h
  split at h
  · cases h
    exact nofun
  · split at h
    · cases h
      exact nofun
    · obtain ⟨c, hc, rfl⟩ := Option.map_eq_some_iff.1 h
      exact List.forall_mem_singleton.2 (List.mem_of_find?_eq_some hc)

/-- An approach goes along edges of the registry. -/
lemma subset_of_approach? {e : Conversion} (h : x.approach? edges e = some w) :
    ∀ c ∈ w.edges, c ∈ edges := by
  unfold approach? at h
  split at h
  · cases h
    exact nofun
  · exact subset_of_step? h

/-- A plan goes along edges of the registry. -/
lemma subset_of_plan? (h : x.plan? edges t = some w) : ∀ c ∈ w.edges, c ∈ edges := by
  unfold plan? at h
  split at h
  · next w' hstep =>
    cases h
    exact subset_of_step? hstep
  · obtain ⟨e, he, hvia⟩ := List.exists_of_findSome?_eq_some h
    obtain ⟨first, htrial, hpost⟩ := Option.bind_eq_some_iff.1 hvia
    obtain ⟨post, hstep, rfl⟩ := Option.map_eq_some_iff.1 hpost
    obtain ⟨pre, hpre, rfl⟩ := Option.map_eq_some_iff.1 htrial
    simp only [Trail.append, List.forall_mem_append, List.forall_mem_singleton]
    exact ⟨⟨subset_of_approach? hpre, he⟩, subset_of_step? hstep⟩

end Outline

section Trails

variable {edges : List Conversion} {v out : Value} {t : Convention} {n : Nat} {s s' : State}

/-- A trail that is counted is one that has been followed, with the number of its edges. -/
lemma Trail.run_of_count {w : Trail} (h : (w.count v).exec s = (.ok (some (out, n)), s')) :
    (w.run v).exec s = (.ok out, s') ∧ w.edges.length = n := by
  obtain ⟨out', s₁, hrun, h⟩ := Assembly.exists_of_exec_bind h
  cases h
  exact ⟨hrun, rfl⟩

/-- A hop that succeeds has followed the trail in one hop. -/
lemma exists_trail_of_oneHop (h : (oneHop edges v t).exec s = (.ok (some (out, n)), s')) :
    ∃ w, v.outline.step? edges t.handle = some w ∧ (w.run v).exec s = (.ok out, s') ∧
      w.edges.length = n := by
  rw [oneHop_eq] at h
  split at h
  · next w hstep => exact ⟨w, hstep, Trail.run_of_count h⟩
  · cases h

/-- A start of an edge that was reached was reached along a trail. -/
lemma exists_trail_of_approach {c : Conversion}
    (h : (approach edges v c).exec s = (.ok (some (out, n)), s')) :
    ∃ w, v.outline.approach? edges c = some w ∧ (w.run v).exec s = (.ok out, s') ∧
      w.edges.length = n := by
  rw [approach_eq] at h
  split at h
  · next w happroach => exact ⟨w, happroach, Trail.run_of_count h⟩
  · cases h

/-- What a search through the edges of `rest` finds is at the end of a trail, which was followed
last. -/
lemma exists_trail_of_through {rest : List Conversion} (hrest : ∀ c ∈ rest, c ∈ edges)
    (h : (through edges v t rest).exec s = (.ok (some (out, n)), s')) :
    ∃ (w : Trail) (s₀ : State), (w.run v).exec s₀ = (.ok out, s') ∧ w.edges.length = n ∧ n ≤ 3 ∧
      ∀ c ∈ w.edges, c ∈ edges := by
  induction rest generalizing s with
  | nil => cases h
  | cons c rest ih =>
    obtain ⟨hc, hrest⟩ := List.forall_mem_cons.1 hrest
    unfold through at h
    obtain ⟨found, s₁, happroach, h⟩ := Assembly.exists_of_exec_bind h
    cases found with
    | none => exact ih hrest h
    | some found =>
      obtain ⟨staged, pre⟩ := found
      obtain ⟨middle, s₂, happly, h⟩ := Assembly.exists_of_exec_bind h
      obtain ⟨found, s₃, hhop, h⟩ := Assembly.exists_of_exec_bind h
      cases found with
      | none => exact ih hrest h
      | some found =>
        obtain ⟨out', post⟩ := found
        cases h
        obtain ⟨w₁, hw₁, hrun₁, rfl⟩ := exists_trail_of_approach happroach
        obtain ⟨w₂, hw₂, hrun₂, rfl⟩ := exists_trail_of_oneHop hhop
        -- what is behind an edge is plain data, so that the hop starts at it
        obtain ⟨k, rfl, -⟩ := Routine.exists_of_invoke happly
        have hstart : w₂.start = none := Outline.start_of_step?_plain hw₂
        have hedges : Assembly.exec (w₂.edges.foldlM (fun u c => c.apply u) (.data k)) s₂ =
            (.ok out, s') := by
          rw [Trail.run, Trail.origin, hstart] at hrun₂
          exact hrun₂
        refine ⟨w₁.append (c :: w₂.edges), s, ?_, ?_, ?_, ?_⟩
        · rw [Trail.run_append, Assembly.exec_bind_ok hrun₁, List.foldlM_cons,
            Assembly.exec_bind_ok happly]
          exact hedges
        · simp only [Trail.append, List.length_append, List.length_cons]
          omega
        · have h₁ := Outline.length_approach?_le hw₁
          have h₂ := Outline.length_step?_le hw₂
          omega
        · simp only [Trail.append, List.forall_mem_append, List.forall_mem_cons]
          exact ⟨Outline.subset_of_approach? hw₁, hc, Outline.subset_of_step? hw₂⟩

/-- A search that succeeds has followed a trail to its end, and followed it last. -/
lemma exists_trail_of_search (h : (search edges v t).exec s = (.ok (some (out, n)), s')) :
    ∃ (w : Trail) (s₀ : State), w.Serves edges v t ∧ (w.run v).exec s₀ = (.ok out, s') ∧
      w.edges.length = n := by
  by_cases hplanned : (∀ c ∈ edges, c.Sound) ∧ v.isComponentType = false
  · -- the search follows its plan
    obtain ⟨hsound, hv⟩ := hplanned
    rw [search_eq hsound hv] at h
    obtain ⟨_, s₀, -, h⟩ := Assembly.exists_of_exec_bind h
    cases hplan : v.outline.plan? edges t.handle with
    | none =>
      rw [hplan] at h
      cases h
    | some w =>
      rw [hplan] at h
      obtain ⟨hrun, hlength⟩ := Trail.run_of_count h
      exact ⟨w, s₀, ⟨Outline.subset_of_plan? hplan, Outline.length_plan?_le hplan,
        fun _ _ => hplan⟩, hrun, hlength⟩
  · unfold search at h
    obtain ⟨found, s₁, hhop, h⟩ := Assembly.exists_of_exec_bind h
    cases found with
    | some found =>
      cases h
      obtain ⟨w, hstep, hrun, hlength⟩ := exists_trail_of_oneHop hhop
      have hle := Outline.length_step?_le hstep
      exact ⟨w, s, ⟨Outline.subset_of_step? hstep, by omega,
        fun hsound hv => absurd ⟨hsound, hv⟩ hplanned⟩, hrun, hlength⟩
    | none =>
      obtain ⟨w, s₀, hrun, hlength, hle, hsubset⟩ := exists_trail_of_through (fun _ => id) h
      exact ⟨w, s₀, ⟨hsubset, hlength ▸ hle, fun hsound hv => absurd ⟨hsound, hv⟩ hplanned⟩, hrun,
        hlength⟩

end Trails

/-! ## What is counted -/

/-- A search counts nothing. -/
lemma tally_of_search (edges : List Conversion) (v : Value) (t : Convention) (s : State) :
    ((search edges v t).exec s).2.tally = s.tally :=
  passes_search State.callRelation_tally.1.passes.assembly
    (fun c _ v => c.routine.passes_invoke State.callRelation_tally.passes [v]) v t s

/-- A conversion ends with a trail and is counted under the number of its edges, or it ends without
one and is counted as a failure, or it fails by an argument and is not counted. -/
lemma exec_convert (edges : List Conversion) (v : Value) (t : Convention) (s : State) :
    (∃ (w : Trail) (out : Value) (s₀ s₁ : State), w.Serves edges v t ∧
      (w.run v).exec s₀ = (.ok out, s₁) ∧ s₁.tally = s.tally ∧
      (convert edges v t).exec s = (.ok out, { s₁ with
        events := s₁.events ++ [.converted v.shape t w.edges.length]
        tally := s.tally.raise (.conversion w.edges.length) 1 })) ∨
    (∃ s₁ : State, s₁.tally = s.tally ∧
      (convert edges v t).exec s = (.error (.noConversion v.shape t), { s₁ with
        events := s₁.events ++ [.noConversion v.shape t]
        tally := s.tally.raise .conversionFailure 1 })) ∨
    ∃ (e : BuildError) (s₁ : State), e.kind = .argument ∧ s₁.tally = s.tally ∧
      (convert edges v t).exec s = (.error e, s₁) := by
  have htally := tally_of_search edges v t s
  rcases hsearch : (search edges v t).exec s with ⟨e | found, s₁⟩
  · rw [hsearch] at htally
    have hkind := failsByArgument_search edges v t s e s₁ hsearch
    exact .inr (.inr ⟨e, s₁, hkind, htally, Assembly.exec_bind_error hsearch⟩)
  · rw [hsearch] at htally
    have htally : s₁.tally = s.tally := htally
    rw [convert, Assembly.exec_bind_ok hsearch]
    cases found with
    | none =>
      refine .inr (.inl ⟨s₁, htally, ?_⟩)
      rw [← htally]
      rfl
    | some found =>
      obtain ⟨out, n⟩ := found
      obtain ⟨w, s₀, hserves, hrun, rfl⟩ := exists_trail_of_search hsearch
      refine .inl ⟨w, out, s₀, s₁, hserves, hrun, htally, ?_⟩
      rw [← htally]
      rfl

end Pipework
