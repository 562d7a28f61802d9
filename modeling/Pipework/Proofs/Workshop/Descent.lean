import Pipework.Proofs.Workshop.Growth

set_option autoImplicit false

/-!
# The descent of builders

A builder that is made anew gets a property bag and a registry of its own. A branch and a clone have
the bag and the registry of the builder that they come from. Bags and registries are numbered
separately, and still two builders have the same bag exactly if they have the same registry: both
tell that they come from the same new builder.

## Main definitions

* `Founder`, `Workshop.SameNew` — descent from builders that were made anew.
* `Lineage` — builders to which something is handed down that only new builders get.
* `Workshop.Formed` — bags and registries are handed down.
* `Workshop.Reached` — the workshops that programs lead to.

## Main results

* `Lineage.same_founder_iff` — builders have the same founder exactly if the same has been handed
  down to them.
* `Workshop.Reached.formed` — programs hand down bags and registries.
* `Workshop.Formed.same_bag_iff_same_registry` — to share the one is to share the other.
-/

namespace Pipework

/-! ## What is handed down -/

/-- The builder at place `i` comes from the builder at place `r`, which was made anew. The list says
for every builder at which place the one is that it comes from. -/
inductive Founder (parents : List (Option Nat)) : (i r : Nat) → Prop
  | made {r : Nat} (h : parents[r]? = some none) : Founder parents r r
  | derived {i p r : Nat} (h : parents[i]? = some (some p)) (hp : Founder parents p r) :
      Founder parents i r

/-- The number of what every builder has, a bag or a registry, and the place of the builder that it
comes from. -/
abbrev Descent := List (Nat × Option Nat)

/-- The descent of builders when there are `n` things to hand down: each builder was made anew, with
a thing of its own, or comes from one that was there and has the thing of that one. -/
inductive Lineage : (n : Nat) → Descent → Prop
  | nil : Lineage 0 []
  | make {n : Nat} {l : Descent} (h : Lineage n l) : Lineage (n + 1) (l ++ [(n, none)])
  | derive {n : Nat} {l : Descent} (h : Lineage n l) {p k : Nat} {q : Option Nat}
      (hp : l[p]? = some (k, q)) : Lineage n (l ++ [(k, some p)])

namespace Lineage

variable {n : Nat} {l : Descent} {i j p r k : Nat} {q : Option Nat}

/-- A place in a longer list is one of the old places or the new one. -/
lemma getElem?_concat_cases {x y : Nat × Option Nat} (h : (l ++ [x])[i]? = some y) :
    l[i]? = some y ∨ i = l.length ∧ y = x := by
  rw [List.getElem?_append] at h
  split at h
  · exact .inl h
  · next hi =>
    obtain ⟨hlt, rfl⟩ := List.getElem?_eq_some_iff.1 h
    rw [List.length_singleton] at hlt
    exact .inr ⟨by omega, List.getElem_singleton hlt⟩

/-- What stands in a list stands at the same place in a longer one. -/
lemma getElem?_concat_of_some {x y : Nat × Option Nat} (h : l[i]? = some y) :
    (l ++ [x])[i]? = some y := by
  rw [List.getElem?_append_left (List.getElem?_eq_some_iff.1 h).1, h]

/-- What a builder has is there. -/
lemma lt (h : Lineage n l) (hi : l[i]? = some (k, q)) : k < n := by
  induction h generalizing i k q with
  | nil => cases hi
  | make h ih =>
    obtain hi | ⟨-, hx⟩ := getElem?_concat_cases hi
    · exact Nat.lt_succ_of_lt (ih hi)
    · cases hx
      exact Nat.lt_succ_self _
  | derive h hp ih =>
    obtain hi | ⟨-, hx⟩ := getElem?_concat_cases hi
    · exact ih hi
    · cases hx
      exact ih hp

/-- A builder that comes from another one is behind it and has the same. -/
lemma exists_parent (h : Lineage n l) (hi : l[i]? = some (k, some p)) :
    p < i ∧ ∃ q, l[p]? = some (k, q) := by
  induction h with
  | nil => cases hi
  | make h ih =>
    obtain hi | ⟨-, hx⟩ := getElem?_concat_cases hi
    · obtain ⟨hlt, q, hq⟩ := ih hi
      exact ⟨hlt, q, getElem?_concat_of_some hq⟩
    · cases hx
  | derive h hp ih =>
    obtain hi | ⟨rfl, hx⟩ := getElem?_concat_cases hi
    · obtain ⟨hlt, q, hq⟩ := ih hi
      exact ⟨hlt, q, getElem?_concat_of_some hq⟩
    · cases hx
      exact ⟨(List.getElem?_eq_some_iff.1 hp).1, _, getElem?_concat_of_some hp⟩

/-- Two builders that were made anew have different things. -/
lemma made_inj (h : Lineage n l) (hi : l[i]? = some (k, none)) (hj : l[j]? = some (k, none)) :
    i = j := by
  induction h with
  | nil => cases hi
  | @make n l h ih =>
    obtain hold | ⟨rfl, hx⟩ := getElem?_concat_cases hi
    · obtain hold' | ⟨-, hy⟩ := getElem?_concat_cases hj
      · exact ih hold hold'
      · obtain rfl : k = n := congrArg Prod.fst hy
        exact absurd (h.lt hold) (Nat.lt_irrefl _)
    · obtain hold' | ⟨rfl, -⟩ := getElem?_concat_cases hj
      · obtain rfl : k = n := congrArg Prod.fst hx
        exact absurd (h.lt hold') (Nat.lt_irrefl _)
      · rfl
  | derive h hp ih =>
    obtain hold | ⟨-, hx⟩ := getElem?_concat_cases hi
    · obtain hold' | ⟨-, hy⟩ := getElem?_concat_cases hj
      · exact ih hold hold'
      · cases hy
    · cases hx

/-- The place of the parent in a descent. -/
lemma getElem?_parents (hi : l[i]? = some (k, q)) : (l.map Prod.snd)[i]? = some q := by
  rw [List.getElem?_map, hi]
  rfl

/-- Whatever has a parent has an id. -/
lemma exists_of_parents (hi : (l.map Prod.snd)[i]? = some q) : ∃ k, l[i]? = some (k, q) := by
  rw [List.getElem?_map] at hi
  obtain ⟨⟨k, q⟩, hx, rfl⟩ := Option.map_eq_some_iff.1 hi
  exact ⟨k, hx⟩

/-- Every builder comes from one that was made anew, which has the same. -/
lemma exists_founder (h : Lineage n l) (hi : l[i]? = some (k, q)) :
    ∃ r, Founder (l.map Prod.snd) i r ∧ l[r]? = some (k, none) := by
  induction i using Nat.strong_induction_on generalizing q with
  | _ i ih =>
    cases q with
    | none => exact ⟨i, .made (getElem?_parents hi), hi⟩
    | some p =>
      obtain ⟨hlt, q, hp⟩ := h.exists_parent hi
      obtain ⟨r, hfounder, hr⟩ := ih p hlt hp
      exact ⟨r, .derived (getElem?_parents hi) hfounder, hr⟩

/-- What a builder has is what its founder has. -/
lemma exists_of_founder (h : Lineage n l) (hfounder : Founder (l.map Prod.snd) i r) :
    ∃ k q, l[i]? = some (k, q) ∧ l[r]? = some (k, none) := by
  induction hfounder with
  | made hr =>
    obtain ⟨k, hr⟩ := exists_of_parents hr
    exact ⟨k, none, hr, hr⟩
  | derived hi _ ih =>
    obtain ⟨k, hi⟩ := exists_of_parents hi
    obtain ⟨-, q, hp⟩ := h.exists_parent hi
    obtain ⟨k', q', hp', hr⟩ := ih
    cases hp.symm.trans hp'
    exact ⟨k, _, hi, hr⟩

/-- Two builders come from the same new one exactly if they have the same. -/
lemma same_founder_iff (h : Lineage n l) {k' : Nat} {q' : Option Nat} (hi : l[i]? = some (k, q))
    (hj : l[j]? = some (k', q')) :
    (∃ r, Founder (l.map Prod.snd) i r ∧ Founder (l.map Prod.snd) j r) ↔ k = k' := by
  constructor
  · rintro ⟨r, hri, hrj⟩
    obtain ⟨a, _, hi', hr⟩ := h.exists_of_founder hri
    obtain ⟨b, _, hj', hr'⟩ := h.exists_of_founder hrj
    cases hi.symm.trans hi'
    cases hj.symm.trans hj'
    cases hr.symm.trans hr'
    rfl
  · rintro rfl
    obtain ⟨r, hri, hr⟩ := h.exists_founder hi
    obtain ⟨r', hrj, hr'⟩ := h.exists_founder hj
    cases h.made_inj hr hr'
    exact ⟨r, hri, hrj⟩

end Lineage

/-! ## The builders of a workshop -/

namespace Workshop

variable {w : Workshop} {i j : Nat}

/-- The places of the builders that the builders come from. -/
def parents (w : Workshop) : List (Option Nat) := w.members.map Member.parent

/-- The descent of the builders, with something that they have. -/
def descent (w : Workshop) (id : Builder → Nat) : Descent :=
  w.members.map fun m => (id m.builder, m.parent)

/-- The two builders come from the same builder that was made anew. -/
def SameNew (w : Workshop) (i j : Nat) : Prop := ∃ r, Founder w.parents i r ∧ Founder w.parents j r

/-- Bags are handed down, and registries are. -/
structure Formed (w : Workshop) : Prop where
  bags : Lineage w.state.bags.length (w.descent Builder.properties)
  registries : Lineage w.state.registries.length (w.descent Builder.conversions)

/-- Programs lead to the workshop. While a branch is being configured, it is one more builder. -/
inductive Reached : Workshop → Prop
  | start : Reached empty
  | course {busy : List Nat} {w w' : Workshop} {l : List StageKind} (h : Reached w)
      (hcourse : Course busy w l w') : Reached w'
  | opened {w : Workshop} {i : Nat} (h : Reached w) (hi : i < w.members.length) :
      Reached (w.opened i)

/-! ### Descent -/

/-- The parents are the same, whatever the ids are. -/
lemma map_snd_descent (w : Workshop) (id : Builder → Nat) :
    (w.descent id).map Prod.snd = w.parents := List.map_map

/-- Every builder has its id in the descent. -/
lemma getElem?_descent (id : Builder → Nat) (hi : i < w.members.length) :
    ∃ q, (w.descent id)[i]? = some (id (w.builder i), q) := by
  have hm := List.getElem?_eq_getElem hi
  refine ⟨w.members[i].parent, ?_⟩
  rw [descent, List.getElem?_map, hm, builder_of_getElem? hm]
  rfl

/-- What a builder has can be read off the descent. -/
lemma builder_eq_descent (w : Workshop) (id : Builder → Nat) (i : Nat) :
    id (w.builder i) = ((w.descent id)[i]?.map Prod.fst).getD (id Builder.bareRoot) := by
  rw [builder, descent, List.getElem?_map]
  cases w.members[i]? <;> rfl

/-- One more builder comes behind all others, with its id. -/
lemma descent_enter (w : Workshop) (id : Builder → Nat) (m : Member) :
    (w.enter m).descent id = w.descent id ++ [(id m.builder, m.parent)] := List.map_append

/-- Stages that are added to a builder leave the descent alone. -/
lemma descent_put {id : Builder → Nat} {b : Builder} (hb : id b = id (w.builder i)) :
    (w.put i b).descent id = w.descent id := by
  refine List.ext_getElem? fun j => ?_
  rw [descent, descent, List.getElem?_map, List.getElem?_map]
  by_cases hij : i = j
  · subst hij
    cases hm : w.members[i]? with
    | none => rw [put, List.getElem?_modify_eq, hm]; rfl
    | some m =>
      rw [builder_of_getElem? hm] at hb
      rw [getElem?_put_self b hm, Option.map_some, Option.map_some, hb]
  · rw [getElem?_put_ne hij]

/-- What is handed down tells whether builders come from the same new one. -/
lemma sameNew_iff_of_lineage {n : Nat} {id : Builder → Nat} (h : Lineage n (w.descent id))
    (hi : i < w.members.length) (hj : j < w.members.length) :
    w.SameNew i j ↔ id (w.builder i) = id (w.builder j) := by
  obtain ⟨q, hq⟩ := getElem?_descent id hi
  obtain ⟨q', hq'⟩ := getElem?_descent id hj
  rw [← h.same_founder_iff hq hq', map_snd_descent, SameNew]

namespace Formed

/-- Builders come from the same new one exactly if they have the same bag. -/
lemma sameNew_iff_bag (h : w.Formed) (hi : i < w.members.length) (hj : j < w.members.length) :
    w.SameNew i j ↔ (w.builder i).properties = (w.builder j).properties :=
  sameNew_iff_of_lineage h.bags hi hj

/-- Builders come from the same new one exactly if they have the same registry. -/
lemma sameNew_iff_registry (h : w.Formed) (hi : i < w.members.length) (hj : j < w.members.length) :
    w.SameNew i j ↔ (w.builder i).conversions = (w.builder j).conversions :=
  sameNew_iff_of_lineage h.registries hi hj

/-- Two builders have the same bag exactly if they have the same registry. -/
theorem same_bag_iff_same_registry (h : w.Formed) (hi : i < w.members.length)
    (hj : j < w.members.length) :
    (w.builder i).properties = (w.builder j).properties ↔
      (w.builder i).conversions = (w.builder j).conversions :=
  (h.sameNew_iff_bag hi hj).symm.trans (h.sameNew_iff_registry hi hj)

/-- The bag of a builder is there. -/
lemma properties_lt (h : w.Formed) (hi : i < w.members.length) :
    (w.builder i).properties < w.state.bags.length := by
  obtain ⟨q, hq⟩ := getElem?_descent Builder.properties hi
  exact h.bags.lt hq

/-- The registry of a builder is there. -/
lemma conversions_lt (h : w.Formed) (hi : i < w.members.length) :
    (w.builder i).conversions < w.state.registries.length := by
  obtain ⟨q, hq⟩ := getElem?_descent Builder.conversions hi
  exact h.registries.lt hq

/-! ### Steps -/

/-- A step that makes neither bags nor registries and leaves the builders alone. -/
lemma of_state (h : w.Formed) {s : State} (hbags : s.bags.length = w.state.bags.length)
    (hregistries : s.registries.length = w.state.registries.length) :
    Formed { w with state := s } where
  bags := hbags ▸ h.bags
  registries := hregistries ▸ h.registries

/-- A branch or a clone of a builder. -/
lemma derive (h : w.Formed) (hi : i < w.members.length) {b : Builder}
    (hb : b.branch = (w.builder i).branch) : (w.enter ⟨b, some i⟩).Formed where
  bags := by
    obtain ⟨q, hq⟩ := getElem?_descent Builder.properties hi
    rw [descent_enter, Builder.properties_of_branch_eq hb]
    exact .derive h.bags hq
  registries := by
    obtain ⟨q, hq⟩ := getElem?_descent Builder.conversions hi
    rw [descent_enter, Builder.conversions_of_branch_eq hb]
    exact .derive h.registries hq

/-- A builder gets stages. -/
lemma put (h : w.Formed) {b : Builder} (hb : b.branch = (w.builder i).branch) :
    (w.put i b).Formed where
  bags := by
    rw [descent_put (Builder.properties_of_branch_eq hb)]
    exact h.bags
  registries := by
    rw [descent_put (Builder.conversions_of_branch_eq hb)]
    exact h.registries

/-- A new builder gets the next bag and the next registry. -/
lemma make (h : w.Formed) : (Act.make.run.exec w).2.Formed where
  bags := by
    have hlength : (Builder.make.exec w.state).2.bags.length = w.state.bags.length + 1 :=
      List.length_append
    rw [Act.exec_make, descent_enter]
    change Lineage (Builder.make.exec w.state).2.bags.length _
    rw [hlength]
    exact .make h.bags
  registries := by
    have hlength : (Builder.make.exec w.state).2.registries.length =
        w.state.registries.length + 1 := List.length_append
    rw [Act.exec_make, descent_enter]
    change Lineage (Builder.make.exec w.state).2.registries.length _
    rw [hlength]
    exact .make h.registries

end Formed

end Workshop

/-! ## Programs -/

/-- From one state to another no bag and no registry is made. -/
def State.SameCount (s s' : State) : Prop :=
  s'.bags.length = s.bags.length ∧ s'.registries.length = s.registries.length

/-- Nothing that a call does on the side makes a bag or a registry. -/
lemma State.callRelation_sameCount : State.CallRelation State.SameCount where
  refl _ := ⟨rfl, rfl⟩
  trans h h' := ⟨h'.1.trans h.1, h'.2.trans h.2⟩
  effects f trace s :=
    have h := f.registers_effects trace s
    ⟨h.length_bags, h.length_registries⟩
  register r v s :=
    have h := Assembly.registers_register r v s
    ⟨h.length_bags, h.length_registries⟩
  logCall _ _ := ⟨rfl, rfl⟩
  newCell _ _ := ⟨rfl, rfl⟩
  setCell _ _ _ := ⟨rfl, rfl⟩

/-- A step that changes no list of stages makes no bag and no registry. -/
lemma Call.sameCount (x : Call) (w : Workshop) :
    w.state.SameCount ((x.run w).exec w.state).2 := by
  have hρ := State.callRelation_sameCount
  have hP := hρ.passes
  have hreport (e : Event) : (Engine.report e).Within State.SameCount := fun _ => ⟨rfl, rfl⟩
  have hraise (c : Counter) (n : Nat) : (Engine.raise c n).Within State.SameCount :=
    fun _ => ⟨rfl, rfl⟩
  have hrun : (x.run w).Within State.SameCount := by
    cases x with
    | write i x =>
      cases x with
      | set key v => exact fun s => ⟨s.length_bags_updateBag _ _, rfl⟩
      | remove key => exact fun s => ⟨s.length_bags_updateBag _ _, rfl⟩
      | register v => exact hP.register _ v
    | registerByBag i v => exact hP.assembly.discard (Assembly.within_registerByBag hρ _ v)
    | convert i r v t =>
      refine hP.assembly.bind (hP.lift ?_) fun edges => hP.assembly.discard
        (passes_convert hP.1.1 hreport hraise (fun c _ v => c.routine.passes_invoke hP [v]) v t)
      cases r <;> exact fun _ => ⟨rfl, rfl⟩
    | buildValue i t =>
      exact hP.assembly.discard ((w.builder i).within_buildValue hρ hreport hraise t)
    | build i type =>
      exact hP.assembly.discard ((w.builder i).within_build hρ hreport hraise type)
    | apply st next => exact hP.assembly.discard (st.passes_apply hP next)
    | invoke v args => exact hP.assembly.discard (v.passes_invoke hP args)
    | construct t args => exact hP.assembly.discard (t.passes_construct hP args)
    | eval e => exact hP.assembly.discard (hP.lift (e.passes_eval hP.1))
    | render v => exact hP.assembly.discard (hP.lift (v.passes_render hP))
    | number n x => exact hP.assembly.discard (hP.lift (n.passes_eval hP x))
    | store name v => cases name <;> exact fun _ => ⟨rfl, rfl⟩
    | takeCalls => exact fun _ => ⟨rfl, rfl⟩
    | takeEvents => exact fun _ => ⟨rfl, rfl⟩
  exact hrun w.state

namespace Workshop

variable {w : Workshop} {i j : Nat}

/-- A step hands down bags and registries. -/
lemma Formed.act (h : w.Formed) {a : Act} (ha : ∀ i ∈ a.places, i < w.members.length) :
    (a.run.exec w).2.Formed := by
  cases a with
  | make => exact h.make
  | branch i => exact h.derive (ha i (List.mem_singleton_self i)) rfl
  | clone i => exact h.derive (ha i (List.mem_singleton_self i)) rfl
  | add i x =>
    cases hx : x.resolve with
    | error e =>
      rw [Act.exec_add_error hx]
      exact h
    | ok st =>
      obtain ⟨events, hadd⟩ := Act.exec_add_ok hx i w
      rw [hadd]
      refine Formed.put ?_ rfl
      exact h.of_state rfl rfl
  | call x => exact h.of_state (x.sameCount w).1 (x.sameCount w).2

/-- Adding a branch hands down bags and registries if configuring it does. -/
lemma Formed.mount {g : Gate} (hg : g.check = .ok ()) (hi : i < w.members.length)
    {conf : Work Unit} (hextends : w.Extends [i] (conf.exec (w.opened i)).2)
    (hconf : (conf.exec (w.opened i)).2.Formed) : ((Work.mount i g conf).exec w).2.Formed := by
  have hcount (w₁ : Workshop) : w₁.state.SameCount
      ((w₁.builder w.members.length).buildApp.exec w₁.state).2 :=
    Builder.within_buildApp State.callRelation_sameCount (fun _ _ => ⟨rfl, rfl⟩)
      (fun _ _ _ => ⟨rfl, rfl⟩) _ _
  have hends := Work.mount_ends hg i conf w
  generalize (Work.mount i g conf).exec w = r at hends ⊢
  cases hends with
  | unconfigured hw₁ =>
    rw [hw₁] at hconf
    exact hconf
  | @unbuilt e w₁ s hw₁ hbuild =>
    rw [hw₁] at hconf
    have hs := hcount w₁
    rw [hbuild] at hs
    exact hconf.of_state hs.1 hs.2
  | @added w₁ app s events hw₁ hbuild =>
    rw [hw₁] at hconf hextends
    have hs := hcount w₁
    rw [hbuild] at hs
    have hbuilder : w₁.builder i = w.builder i := hextends.builder_eq List.mem_cons_self hi
    refine Formed.put ?_ ?_
    · exact hconf.of_state hs.1 hs.2
    · change (w.builder i).branch = (w₁.builder i).branch
      rw [hbuilder]

/-- Programs hand down bags and registries. -/
lemma Formed.course {busy : List Nat} {w w' : Workshop} {l : List StageKind} (h : w.Formed)
    (hcourse : Course busy w l w') : w'.Formed := by
  induction hcourse with
  | start busy w => exact h
  | act _ a ha ih => exact (ih h).act fun i hi => (ha i hi).1
  | reject _ _ hg conf ih =>
    rw [Work.exec_mount_rejected _ conf hg]
    exact ih h
  | @mount busy w w' l l' _ i hi g hg conf hconf ih ihconf =>
    have hopened : w'.Extends (i :: busy) (conf.exec (w'.opened i)).2 :=
      Extends.trans (.enter _ _) hconf.extends
    exact Formed.mount hg hi.1 (hopened.mono (List.cons_subset_cons i (List.nil_subset busy)))
      (ihconf ((ih h).derive hi.1 rfl))

/-- In every workshop that a program leads to, bags and registries have been handed down.

**Proof sketch.** Induction on the program. A new builder gets a bag and a registry at the same
time, and whatever else makes a builder passes both on. -/
lemma Reached.formed (h : w.Reached) : w.Formed := by
  induction h with
  | start => exact ⟨.nil, .nil⟩
  | course _ hcourse ih => exact ih.course hcourse
  | opened _ hi ih => exact ih.derive hi rfl

/-- A branch or a clone comes from the same new builder as the builder that it is made from. -/
lemma Formed.sameNew_derive (h : w.Formed) (hi : i < w.members.length) {b : Builder}
    (hb : b.branch = (w.builder i).branch) : (w.enter ⟨b, some i⟩).SameNew i w.members.length := by
  have hlength := w.length_enter ⟨b, some i⟩
  rw [(h.derive hi hb).sameNew_iff_bag (by omega) (by omega), builder_enter_lt _ hi,
    builder_enter_self]
  exact (Builder.properties_of_branch_eq hb).symm

/-- No program changes which builders come from the same new one. -/
lemma Formed.sameNew_course_iff {busy : List Nat} {w' : Workshop} {l : List StageKind}
    (h : w.Formed) (hcourse : Course busy w l w') (hi : i < w.members.length)
    (hj : j < w.members.length) : w'.SameNew i j ↔ w.SameNew i j := by
  obtain ⟨hi', hbranch⟩ := hcourse.extends.branch_eq hi
  obtain ⟨hj', hbranch'⟩ := hcourse.extends.branch_eq hj
  rw [(h.course hcourse).sameNew_iff_bag hi' hj', h.sameNew_iff_bag hi hj,
    Builder.properties_of_branch_eq hbranch, Builder.properties_of_branch_eq hbranch']

end Workshop

end Pipework
