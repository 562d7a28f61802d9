import Pipework.Proofs.Workshop.Basic

set_option autoImplicit false

/-!
# Lists of stages only grow

Whatever a program does, the stages of a builder stay where they are, and new ones come behind them.
A step that adds a stage adds it to one builder. A step that fails adds nothing; only the steps that
configure a branch are not taken back when the branch is given up later.

## Main definitions

* `Workshop.Extends` — one workshop goes on from another.

## Main results

* `Act.extends`, `Work.extends_mount` — single steps.
* `Course.extends` — whole programs.
* `Workshop.stages_only_grow` — what succeeds and what fails, with all that it leaves behind.
-/

namespace Pipework

/-! ## Workshops that go on from one another -/

/-- Builders with the same branch have the same bag. -/
lemma Builder.properties_of_branch_eq {b c : Builder} (h : b.branch = c.branch) :
    b.properties = c.properties := (congrArg Builder.properties h :)

/-- Builders with the same branch have the same registry. -/
lemma Builder.conversions_of_branch_eq {b c : Builder} (h : b.branch = c.branch) :
    b.conversions = c.conversions := (congrArg Builder.conversions h :)

/-- The builders of `w` are still there in `w'`. Each has the same bag, the same registry and at
least the stages that it had, and those at the places `busy` are what they were. -/
def Workshop.Extends (busy : List Nat) (w w' : Workshop) : Prop :=
  ∀ i m, w.members[i]? = some m → ∃ m', w'.members[i]? = some m' ∧ m'.parent = m.parent ∧
    m'.builder.properties = m.builder.properties ∧
    m'.builder.conversions = m.builder.conversions ∧
    m.builder.stages <+: m'.builder.stages ∧ (i ∈ busy → m' = m)

namespace Workshop.Extends

variable {busy : List Nat} {w w₁ w' : Workshop}

/-- The same members go on from themselves. -/
lemma of_members_eq (h : w'.members = w.members) : Extends busy w w' := by
  intro i m hm
  exact ⟨m, by rw [h, hm], rfl, rfl, rfl, List.prefix_rfl, fun _ => rfl⟩

/-- A workshop goes on from itself. -/
lemma refl (busy : List Nat) (w : Workshop) : Extends busy w w := of_members_eq rfl

/-- Workshops that go on from one another one after the other. -/
lemma trans (h : Extends busy w w₁) (h' : Extends busy w₁ w') : Extends busy w w' := by
  intro i m hm
  obtain ⟨m₁, hm₁, hparent₁, hbag₁, hregistry₁, hstages₁, hbusy₁⟩ := h i m hm
  obtain ⟨m', hm', hparent, hbag, hregistry, hstages, hbusy⟩ := h' i m₁ hm₁
  exact ⟨m', hm', hparent.trans hparent₁, hbag.trans hbag₁, hregistry.trans hregistry₁,
    hstages₁.trans hstages, fun hi => (hbusy hi).trans (hbusy₁ hi)⟩

/-- Fewer builders may be said to be left alone. -/
lemma mono {busy' : List Nat} (h : Extends busy w w') (hsub : busy' ⊆ busy) :
    Extends busy' w w' := by
  intro i m hm
  obtain ⟨m', hm', hparent, hbag, hregistry, hstages, hbusy⟩ := h i m hm
  exact ⟨m', hm', hparent, hbag, hregistry, hstages, fun hi => hbusy (hsub hi)⟩

/-- One more builder. -/
lemma enter (w : Workshop) (m : Member) : Extends busy w (w.enter m) := by
  intro i n hn
  have hlt : i < w.members.length := (List.getElem?_eq_some_iff.1 hn).1
  exact ⟨n, (getElem?_enter_lt hlt).trans hn, rfl, rfl, rfl, List.prefix_rfl, fun _ => rfl⟩

/-- Stages that are added to a builder. -/
lemma put {i : Nat} {b : Builder} (hi : i ∉ busy) (hb : b.branch = (w.builder i).branch)
    (hstages : (w.builder i).stages <+: b.stages) : Extends busy w (w.put i b) := by
  intro j m hm
  by_cases hij : i = j
  · subst hij
    have hbuilder := builder_of_getElem? hm
    rw [hbuilder] at hb hstages
    exact ⟨_, getElem?_put_self b hm, rfl, Builder.properties_of_branch_eq hb,
      Builder.conversions_of_branch_eq hb, hstages, fun h => absurd h hi⟩
  · exact ⟨m, (getElem?_put_ne hij).trans hm, rfl, rfl, rfl, List.prefix_rfl, fun _ => rfl⟩

/-- A builder on which nobody works is what it was. -/
lemma getElem?_eq {i : Nat} (h : Extends busy w w') (hi : i ∈ busy) (hlt : i < w.members.length) :
    w'.members[i]? = w.members[i]? := by
  have hm := List.getElem?_eq_getElem hlt
  obtain ⟨m', hm', -, -, -, -, hbusy⟩ := h i _ hm
  rw [hm, hm', hbusy hi]

/-- A builder that is left alone stays what it is. -/
lemma builder_eq {i : Nat} (h : Extends busy w w') (hi : i ∈ busy) (hlt : i < w.members.length) :
    w'.builder i = w.builder i := by
  rw [builder, builder, h.getElem?_eq hi hlt]

/-- Every builder is still there, with the same bag and the same registry. -/
lemma branch_eq {i : Nat} (h : Extends busy w w') (hlt : i < w.members.length) :
    i < w'.members.length ∧ (w'.builder i).branch = (w.builder i).branch := by
  have hm := List.getElem?_eq_getElem hlt
  obtain ⟨m', hm', -, hbag, hregistry, -⟩ := h i _ hm
  rw [builder_of_getElem? hm, builder_of_getElem? hm', Builder.branch, Builder.branch, hbag,
    hregistry]
  exact ⟨(List.getElem?_eq_some_iff.1 hm').1, rfl⟩

end Workshop.Extends

/-! ## Single steps -/

variable {busy : List Nat} {w : Workshop}

/-- A step keeps all builders, and works on those at its places only. -/
lemma Act.extends {a : Act} (ha : ∀ i ∈ a.places, i < w.members.length ∧ i ∉ busy) :
    w.Extends busy (a.run.exec w).2 := by
  cases a with
  | make =>
    have hstate : w.Extends busy { w with state := (Builder.make.exec w.state).2 } :=
      .of_members_eq rfl
    exact hstate.trans (.enter _ _)
  | branch i => exact .enter _ _
  | clone i => exact .enter _ _
  | add i x =>
    have hi : i ∉ busy := (ha i (List.mem_singleton_self i)).2
    cases hx : x.resolve with
    | error e =>
      rw [exec_add_error hx]
      exact .refl _ _
    | ok st =>
      obtain ⟨events, hadd⟩ := exec_add_ok hx i w
      rw [hadd]
      have hstate (s : State) : w.Extends busy { w with state := s } := .of_members_eq rfl
      exact (hstate _).trans (.put hi rfl (List.prefix_append _ _))
  | call x => exact .of_members_eq rfl

/-- A step that adds no stage leaves all builders what they are. -/
lemma Act.getElem?_of_quiet {a : Act} (ha : ∀ i x, a ≠ .add i x) {j : Nat}
    (hj : j < w.members.length) : (a.run.exec w).2.members[j]? = w.members[j]? := by
  cases a with
  | make => exact Workshop.getElem?_enter_lt hj
  | branch i => exact Workshop.getElem?_enter_lt hj
  | clone i => exact Workshop.getElem?_enter_lt hj
  | add i x => exact absurd rfl (ha i x)
  | call x => rfl

/-- Adding a stage leaves all builders but the one that it is added to alone. -/
lemma Act.getElem?_add_ne {i j : Nat} (x : Addition) (hij : j ≠ i) :
    ((Act.add i x).run.exec w).2.members[j]? = w.members[j]? := by
  cases hx : x.resolve with
  | error e => rw [exec_add_error hx]
  | ok st =>
    obtain ⟨events, hadd⟩ := exec_add_ok hx i w
    rw [hadd]
    exact Workshop.getElem?_put_ne hij.symm

namespace Work

variable {i : Nat} {g : Gate} {conf : Work Unit}

/-- Adding a branch keeps all builders, if configuring the branch does, and works on no other one
besides those on which the configuration works. -/
lemma extends_mount (hi : i < w.members.length ∧ i ∉ busy) (hg : g.check = .ok ())
    (hconf : (w.opened i).Extends (i :: busy) (conf.exec (w.opened i)).2) :
    w.Extends busy ((mount i g conf).exec w).2 := by
  have hopened : w.Extends (i :: busy) (conf.exec (w.opened i)).2 :=
    Workshop.Extends.trans (.enter _ _) hconf
  have hsub : busy ⊆ i :: busy := List.subset_cons_self i busy
  have hends := mount_ends hg i conf w
  generalize (mount i g conf).exec w = r at hends ⊢
  cases hends with
  | unconfigured hw₁ =>
    rw [hw₁] at hopened
    exact hopened.mono hsub
  | unbuilt hw₁ hbuild =>
    rw [hw₁] at hopened
    exact (hopened.mono hsub).trans (.of_members_eq rfl)
  | @added w₁ app s events hw₁ hbuild =>
    rw [hw₁] at hopened
    -- the configuration has not worked on the builder to which the branch is added
    have hbuilder : w₁.builder i = w.builder i := hopened.builder_eq List.mem_cons_self hi.1
    have hstate : w.Extends busy { w₁ with state := { s with
        events := events
        tally := s.tally.raise (.stage g.kind) 1 } } :=
      (hopened.mono hsub).trans (.of_members_eq rfl)
    refine hstate.trans (.put hi.2 ?_ ?_)
    · change (w.builder i).branch = (w₁.builder i).branch
      rw [hbuilder]
    · change (w₁.builder i).stages <+: _
      rw [hbuilder]
      exact List.prefix_append _ _

/-- Adding a branch leaves all builders but the one that it is added to as the configuration has
left them. -/
lemma getElem?_mount (hg : g.check = .ok ()) (conf : Work Unit) {j : Nat} (hij : j ≠ i) :
    ((mount i g conf).exec w).2.members[j]? = (conf.exec (w.opened i)).2.members[j]? := by
  have hends := mount_ends hg i conf w
  generalize (mount i g conf).exec w = r at hends ⊢
  cases hends with
  | unconfigured hw₁ => rw [hw₁]
  | unbuilt hw₁ hbuild => rw [hw₁]
  | added hw₁ hbuild =>
    rw [hw₁]
    exact Workshop.getElem?_put_ne hij.symm

end Work

/-! ## Programs -/

/-- A program keeps all builders, and does not change those on which it does not work.

**Proof sketch.** Induction on the program. The steps that configure a branch are a program of their
own, which does not work on the builder to which the branch is added. -/
lemma Course.extends {w' : Workshop} {l : List StageKind} (h : Course busy w l w') :
    w.Extends busy w' := by
  induction h with
  | start busy w => exact .refl _ _
  | act _ a ha ih => exact ih.trans (Act.extends ha)
  | reject _ _ hg conf ih =>
    rw [Work.exec_mount_rejected _ conf hg]
    exact ih
  | mount _ hi hg _ ih ihconf => exact ih.trans (Work.extends_mount hi hg ihconf)

/-- The paths under which no branch can be added. -/
lemma Gate.check_path_error_iff (p : String) :
    (∃ e, (Gate.path p).check = .error e) ↔
      p.toList.getLast? = some '/' ∨ p.toList ≠ [] ∧ p.toList.head? ≠ some '/' := by
  have hroute : (∃ e, (Gate.path p).check = .error e) ↔
      ∃ fault, Route.check p = .error fault := by
    have hcheck : (Gate.path p).check =
        (Route.check p).mapError fun fault => .invalidArgument "path" fault.message := rfl
    rw [hcheck]
    cases Route.check p with
    | ok _ => exact ⟨nofun, nofun⟩
    | error fault => exact ⟨fun _ => ⟨_, rfl⟩, fun _ => ⟨_, rfl⟩⟩
  rw [hroute, Route.check]
  generalize p.toList = cs
  cases cs with
  | nil => exact ⟨nofun, fun h => h.elim nofun fun h => absurd rfl h.1⟩
  | cons c cs =>
    dsimp only
    by_cases hlast : (c :: cs).getLast? = some '/'
    · rw [if_pos hlast]
      exact ⟨fun _ => .inl hlast, fun _ => ⟨_, rfl⟩⟩
    · rw [if_neg hlast]
      by_cases hc : c = '/'
      · rw [if_neg (not_not.2 hc)]
        refine ⟨nofun, fun h => h.elim (fun h => absurd h hlast) fun h => ?_⟩
        exact absurd (congrArg some hc) h.2
      · rw [if_pos hc]
        refine ⟨fun _ => .inr ⟨nofun, fun h => hc (Option.some.inj h)⟩, fun _ => ⟨_, rfl⟩⟩

/-! ## What succeeds and what fails -/

namespace Workshop

/-- A registration that fails changes nothing. -/
lemma eq_of_register_error {i : Nat} {v : Value} {e : BuildError} {w w' : Workshop}
    (h : (Act.call (.write i (.register v))).run.exec w = (.error e, w')) : w' = w := by
  rw [Act.exec_call] at h
  have hrun : (Write.register v).run (w.builder i) =
      Assembly.register (w.builder i).conversions v := rfl
  rw [Call.run, hrun] at h
  cases hv : Conversion.ofValue v with
  | ok c =>
    rw [Assembly.exec_register_ok hv] at h
    cases h
  | error e' =>
    rw [Assembly.exec_register_error hv] at h
    cases h
    rfl

/-- **Lists of stages only grow, and what fails adds nothing.**

* Over a whole program every builder keeps its stages, in their order, and new ones come behind
  them. Steps that add no stage leave all builders alone.
* A stage that is added comes to the end of one list. If no stage is found for what is to be added,
  nothing changes at all, and the same holds of a registration that fails.
* A path that ends with a slash, or is not empty and does not start with one, is rejected. Then
  nothing changes at all, whatever the configuration is, for it is not run.
* A branch is configured by a program that does not work on the builders at the places `busy`, among
  them the one to which the branch is to be added. If it is added, that builder has one more stage
  at the end. If it is not, that builder has none. All other builders are as the configuration has
  left them, so that those at the places `busy` are what they were. Of a branch that is given up
  there stay the changes that the configuration has made, and, if the configuration has come to its
  end, what functions have written and registered that ran while the branch was built, as the call
  log tells.

**Proof sketch.** Single steps and branches extend the workshop (`Act.extends`,
`Work.extends_mount`), and therefore programs do (`Course.extends`). How adding a branch can end is
said by `Work.mount_ends`, and a build changes bags and registries only by functions
(`Builder.within_buildApp`). -/
theorem stages_only_grow :
    (∀ busy w l w', Course busy w l w' → w.Extends busy w') ∧
    (∀ (a : Act) (w : Workshop) (j : Nat), (∀ i x, a ≠ .add i x) → j < w.members.length →
      (a.run.exec w).2.members[j]? = w.members[j]?) ∧
    (∀ (i : Nat) (x : Addition) (w : Workshop), i < w.members.length →
      (∀ w', (Act.add i x).run.exec w = (.ok (), w') →
        (∃ st, x.resolve = .ok st ∧ w'.builder i =
          { w.builder i with stages := (w.builder i).stages ++ [st] }) ∧
        (∀ j, j ≠ i → w'.members[j]? = w.members[j]?) ∧
        w'.state.bags = w.state.bags ∧ w'.state.registries = w.state.registries) ∧
      ∀ e w', (Act.add i x).run.exec w = (.error e, w') → w' = w) ∧
    (∀ i v e w w', (Act.call (.write i (.register v))).run.exec w = (.error e, w') → w' = w) ∧
    (∀ p : String, (∃ e, (Gate.path p).check = .error e) ↔
      p.toList.getLast? = some '/' ∨ p.toList ≠ [] ∧ p.toList.head? ≠ some '/') ∧
    (∀ g e, Gate.check g = .error e → ∀ i conf w,
      (Work.mount i g conf).exec w = (.error e, w)) ∧
    ∀ g, Gate.check g = .ok () → ∀ busy i conf w l, i ∈ busy → i < w.members.length →
      let configured := (conf.exec (w.opened i)).2
      Course busy (w.opened i) l configured →
        (∀ w', (Work.mount i g conf).exec w = (.ok (), w') →
          (∃ app, w'.builder i =
            { w.builder i with stages := (w.builder i).stages ++ [(g.mount app).stage] }) ∧
          ∀ j, j ≠ i → w'.members[j]? = configured.members[j]? ∧
            (j ∈ busy → j < w.members.length → w'.members[j]? = w.members[j]?)) ∧
        ∀ e w', (Work.mount i g conf).exec w = (.error e, w') →
          w'.members = configured.members ∧
          (∀ j ∈ busy, j < w.members.length → w'.members[j]? = w.members[j]?) ∧
          ((conf.exec (w.opened i)).1 = .error e ∧ w' = configured ∨
            (conf.exec (w.opened i)).1 = .ok () ∧ ∃ ran lines,
              State.FunctionWrites ran configured.state w'.state ∧
              w'.state.calls = configured.state.calls ++ lines ∧ ran.Sublist lines) := by
  refine ⟨fun busy w l w' h => h.extends, fun a w j ha hj => Act.getElem?_of_quiet ha hj, ?_,
    fun i v e w w' h => eq_of_register_error h, Gate.check_path_error_iff,
    fun g e hg i conf w => Work.exec_mount_rejected i conf hg w, ?_⟩
  · intro i x w hi
    have hother (j : Nat) (hj : j ≠ i) := Act.getElem?_add_ne (w := w) x hj
    cases hx : x.resolve with
    | error e =>
      rw [Act.exec_add_error hx]
      refine ⟨nofun, ?_⟩
      rintro _ _ ⟨⟩
      rfl
    | ok st =>
      obtain ⟨events, hadd⟩ := Act.exec_add_ok hx i w
      rw [hadd] at hother ⊢
      refine ⟨?_, nofun⟩
      rintro _ ⟨⟩
      exact ⟨⟨st, rfl, builder_put_self _ hi⟩, hother, rfl, rfl⟩
  · intro g hg busy i conf w l hi hlt configured hcourse
    have hopened : w.Extends busy configured := Extends.trans (.enter _ _) hcourse.extends
    have hkept (j : Nat) (hj : j ∈ busy) (hlt : j < w.members.length) :
        configured.members[j]? = w.members[j]? := hopened.getElem?_eq hj hlt
    have hother (j : Nat) (hj : j ≠ i) :
        ((Work.mount i g conf).exec w).2.members[j]? = configured.members[j]? :=
      Work.getElem?_mount hg conf hj
    have hends := Work.mount_ends hg i conf w
    generalize (Work.mount i g conf).exec w = r at hends hother ⊢
    cases hends with
    | @unconfigured e w₁ hconf =>
      obtain rfl : configured = w₁ := congrArg Prod.snd hconf
      refine ⟨nofun, ?_⟩
      rintro _ _ ⟨⟩
      exact ⟨rfl, hkept, .inl ⟨congrArg Prod.fst hconf, rfl⟩⟩
    | @unbuilt e w₁ s hconf hbuild =>
      obtain rfl : configured = w₁ := congrArg Prod.snd hconf
      refine ⟨nofun, ?_⟩
      rintro _ _ ⟨⟩
      refine ⟨rfl, hkept, .inr ⟨congrArg Prod.fst hconf, ?_⟩⟩
      obtain ⟨ran, hwrites⟩ := (configured.builder w.members.length).within_buildApp
        State.callRelation_functionWrites (fun _ _ => ⟨_, .still rfl rfl List.prefix_rfl⟩)
        (fun _ _ _ => ⟨_, .still rfl rfl List.prefix_rfl⟩) configured.state
      rw [hbuild] at hwrites
      obtain ⟨lines, hlines, hsub⟩ := hwrites.exists_calls
      exact ⟨ran, lines, hwrites, hlines, hsub⟩
    | @added w₁ app s events hconf hbuild =>
      obtain rfl : configured = w₁ := congrArg Prod.snd hconf
      refine ⟨?_, nofun⟩
      rintro _ ⟨⟩
      have hconfigured : i < configured.members.length := by
        have hm := hkept i hi hlt
        rw [List.getElem?_eq_getElem hlt] at hm
        exact (List.getElem?_eq_some_iff.1 hm).1
      exact ⟨⟨app, builder_put_self _ hconfigured⟩, fun j hj =>
        ⟨hother j hj, fun hbusy hlt => (hother j hj).trans (hkept j hbusy hlt)⟩⟩

/-- A branch of the second builder gets a handler and is added under a path; under a path that ends
with a slash it would not be. -/
theorem stages_only_grow_two :
    (∃ app, ((Work.mount 1 (.path "/a") .handle).exec two).2.builder 1 =
      ⟨1, 1, [(Mount.path "/a" app).stage]⟩) ∧
    ((Work.mount 1 (.path "/a") .handle).exec two).2.members[0]? = two.members[0]? ∧
    ∃ e, (Work.mount 1 (.path "/a/") .handle).exec two = (.error e, two) := by
  obtain ⟨-, -, -, -, hpath, hrejected, hbranch⟩ := stages_only_grow
  obtain ⟨hadded, -⟩ := hbranch (.path "/a") rfl [1, 0] 1 _ two _ (.head _) (by decide)
    (course_handle (by decide))
  obtain ⟨happ, hothers⟩ := hadded _ rfl
  obtain ⟨e, he⟩ := (hpath "/a/").2 (.inl rfl)
  exact ⟨happ, (hothers 0 (by decide)).2 (.tail _ (.head _)) (by decide),
    e, hrejected (.path "/a/") e he 1 _ two⟩

/-- What the configuration of a branch has added to another builder stays there when the branch is
given up. -/
theorem failed_branch_leaves_stage :
    ¬ ∀ (i : Nat) (g : Gate) (conf : Work Unit) (w : Workshop) (l : List StageKind)
        (e : BuildError) (w' : Workshop), i < w.members.length →
      Course [i] (w.opened i) l (conf.exec (w.opened i)).2 →
      (Work.mount i g conf).exec w = (.error e, w') →
        ∀ j < w.members.length, (w'.builder j).stages = (w.builder j).stages := by
  intro h
  have hcourse : Course [1] (two.opened 1) (([] ++ [.callableFactory]) ++ [])
      ((do
        (Act.add 0 (.handler .notFound)).run
        (Act.add 2 (.stage (.componentType .mount) [])).run : Work Unit).exec
          (two.opened 1)).2 := by
    refine .act (.act (.start _ _) (.add 0 (.handler .notFound)) fun i hi => ?_)
      (.add 2 (.stage (.componentType .mount) [])) fun i hi => ?_
    · obtain rfl := List.mem_singleton.1 hi
      exact ⟨by decide, by decide⟩
    · obtain rfl := List.mem_singleton.1 hi
      exact ⟨by decide, by decide⟩
  have hstages := h 1 (.path "/a") _ two _ _ _ (by decide) hcourse rfl 0 (by decide)
  cases hstages

end Workshop

end Pipework
