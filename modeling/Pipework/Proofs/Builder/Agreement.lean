import Pipework.Proofs.Builder.Moves
import Pipework.Proofs.Builder.Onion
import Pipework.Proofs.Conversion.History

set_option autoImplicit false

/-!
# Functions and objects are built alike

With the two built-in conversions it makes no difference whether a pipeline is built as a function
of the environment or as an object. What the stages leave is an app of one of the two types, or a
component that is bound to one, and comes to either type with the same behaviour; or it comes to
neither of them.

## Main results

* `Value.standsFor_or` — what does not stand for an app shows nothing of one.
* `convertIn_func_object` — the last conversion of a build, to either type.
* `exists_makeMoves_bring` — conversions to and fro leave an app what it is.
* `Builder.build_func_iff_object` — the two builds agree.
-/

namespace Pipework

/-! ## Values that stand for no app -/

/-- Only callable operations are listed in an outline. -/
lemma Value.isCallable_of_mem_invokes {v : Value} {s : Shape} (h : s ∈ v.outline.invokes) :
    (Convention.ofShape s).isCallable = true := by
  obtain ⟨o, ho, rfl⟩ := List.mem_map.1 h
  exact (List.mem_filter.1 ho).2

/-- An operation whose handle is a function of the environment is bound to an app. -/
lemma Instance.exists_app_of_mem_operations {i : Instance} {o : Operation} (h : o ∈ i.operations)
    (hshape : o.value.shape = .appFunc) : ∃ a, o.value = .bound (.app .func a) := by
  cases i with
  | mount path branch next =>
    obtain rfl : o = _ := by simpa [Instance.operations] using h
    exact ⟨_, rfl⟩
  | crafted cls label ops callable cell =>
    obtain ⟨op, -, rfl⟩ := List.mem_map.1 h
    rw [Op.shape_bind] at hshape
    cases op with
    | call name f invocable keeps =>
      have hout : (Routine.func f none).out = .atom .boxFuture := (Shape.func.inj hshape).2
      exact absurd hout (Routine.out_ne_boxFuture _)
    | app name form layer =>
      cases form with
      | func => exact ⟨_, rfl⟩
      | object => cases hshape
      | legacy => cases hshape
    | num name label invocable => cases hshape

/-- A value stands for an app, or it is of neither type of apps and has no operation that is a
function of the environment. -/
lemma Value.standsFor_or (v : Value) :
    (∃ a, v.StandsFor a) ∨
      v.shape ≠ .appFunc ∧ v.shape ≠ .dynApp ∧ .appFunc ∉ v.outline.invokes := by
  -- a value of one of the types of apps is an app
  have hform (form : AppForm) (hne : form ≠ .legacy) (hshape : v.shape = form.shape) :
      ∃ a, v.StandsFor a := by
    obtain ⟨-, htype⟩ := Value.component?_of_shape hshape
    obtain ⟨c, hc, hcs⟩ := Value.exists_content htype
    obtain ⟨a, rfl⟩ := Content.exists_app form (hcs.trans hshape)
    exact ⟨a, .app hne hc⟩
  by_cases hfunc : v.shape = .appFunc
  · exact .inl (hform .func nofun hfunc)
  by_cases hobject : v.shape = .dynApp
  · exact .inl (hform .object nofun hobject)
  by_cases hmem : .appFunc ∈ v.outline.invokes
  · left
    obtain ⟨o, ho⟩ := Option.isSome_iff_exists.1 ((isSome_boundInvoke? v (.object .appFunc)).2 hmem)
    obtain ⟨i, op, rfl, hop, rfl, hshape⟩ := exists_of_boundInvoke? ho
    obtain ⟨a, ha⟩ := Instance.exists_app_of_mem_operations hop hshape
    exact ⟨a, .component (ho.trans (congrArg some ha))⟩
  · exact .inr ⟨hfunc, hobject, hmem⟩

/-! ## Conversions along the built-in edges -/

namespace Registry

/-- The built-in edges lead to the object and to the function. -/
lemma edges_builtin : builtin.edges = [.toObject, .toFunc] := rfl

/-- Sending a value along a built-in edge changes nothing in the state. -/
lemma exec_apply_builtin {c : Conversion} (hc : c ∈ builtin.edges) (v : Value) (s : State) :
    ((c.apply v).exec s).2 = s := by
  rw [edges_builtin, List.mem_cons, List.mem_singleton] at hc
  have hinvoke {r : Routine} (hr : ∀ cs, ((r.run cs).exec s).2 = s) :
      ((r.invoke [v]).exec s).2 = s := by
    cases hargs : extractAll r.params [v] with
    | error e =>
      rw [Routine.invoke, hargs, Assembly.exec_bind_error (Assembly.exec_ofExcept _ s)]
    | ok cs =>
      rw [Routine.exec_invoke hargs]
      exact hr cs
  obtain rfl | rfl := hc
  · refine hinvoke (r := .toObject) fun cs => ?_
    unfold Routine.run
    split <;> first | rfl | contradiction
  · refine hinvoke (r := .toFunc) fun cs => ?_
    unfold Routine.run
    split <;> first | rfl | contradiction

end Registry

section Builtin

variable {k : RegistryId} {s : State} (hs : s.registry k = .builtin)
include hs

/-- With the built-in conversions, a conversion leaves registries and components alone. -/
lemma still_convertIn_builtin (v : Value) (t : Convention) :
    ((convertIn k v t).exec s).2.registries = s.registries ∧
      ((convertIn k v t).exec s).2.cells = s.cells := by
  have hseq : State.Sequential fun s s' => s'.registries = s.registries ∧ s'.cells = s.cells :=
    ⟨fun _ => ⟨rfl, rfl⟩, fun h h' => ⟨h'.1.trans h.1, h'.2.trans h.2⟩⟩
  rw [convertIn, Assembly.exec_get_bind, hs]
  refine passes_convert hseq.passes (fun _ _ => ⟨rfl, rfl⟩) (fun _ _ _ => ⟨rfl, rfl⟩)
    (fun c hc v s => ?_) v t s
  change ((c.apply v).exec s).2.registries = s.registries ∧ ((c.apply v).exec s).2.cells = s.cells
  rw [Registry.exec_apply_builtin hc]
  exact ⟨rfl, rfl⟩

/-- A value that stands for no app does not come to either type of apps. -/
lemma convertIn_of_not_standsFor {v : Value} (hv : ¬ ∃ a, v.StandsFor a) {form : AppForm}
    (hform : form ≠ .legacy) {t : Convention} (ht : t.handle = form.shape) :
    ∃ s', (convertIn k v t).exec s = (.error (.noConversion v.shape t), s') := by
  obtain ⟨hfunc, hobject, hmem⟩ := v.standsFor_or.resolve_left hv
  have hmem' : Shape.dynApp ∉ v.outline.invokes := by
    intro h
    have hcallable := Value.isCallable_of_mem_invokes h
    cases hcallable
  -- neither edge starts at the value, and no operation is of use
  have hstart : ∀ c ∈ Registry.builtin.edges, c.startsAt v.shape = false := by
    intro c hc
    rw [Registry.edges_builtin, List.mem_cons, List.mem_singleton] at hc
    obtain rfl | rfl := hc
    · simp [Conversion.startsAt, Conversion.toObject, hfunc]
    · simp [Conversion.startsAt, Conversion.toFunc, hobject]
  have hhop {u : Convention} (hu : u.handle = .appFunc ∨ u.handle = .dynApp) :
      oneHop Registry.builtin.edges v u = pure none := by
    have hstep : v.outline.step? Registry.builtin.edges u.handle = none := by
      have hfind : (Registry.builtin.edges.find? fun c =>
          c.target = u.handle && c.startsAt v.outline.shape) = none := by
        rw [List.find?_eq_none]
        intro c hc
        simp [hstart c hc]
      unfold Outline.step?
      rw [hfind]
      obtain h | h := hu
      · rw [h, Value.shape_outline, if_neg hfunc, if_neg hmem, Option.map_none]
      · rw [h, Value.shape_outline, if_neg hobject, if_neg hmem', Option.map_none]
    rw [oneHop_eq, hstep]
  have hthrough : ∀ rest, (∀ c ∈ rest, c ∈ Registry.builtin.edges) →
      through Registry.builtin.edges v t rest = pure none := by
    intro rest
    induction rest with
    | nil => exact fun _ => rfl
    | cons c rest ih =>
      intro hrest
      have hc := hrest c List.mem_cons_self
      have hsource : c.source = .appFunc ∨ c.source = .dynApp := by
        rw [Registry.edges_builtin, List.mem_cons, List.mem_singleton] at hc
        obtain rfl | rfl := hc
        · exact .inl rfl
        · exact .inr rfl
      have happroach : approach Registry.builtin.edges v c = pure none := by
        rw [approach, Conversion.accepts_eq, hstart c hc, if_neg Bool.false_ne_true]
        exact hhop hsource
      rw [through, happroach, pure_bind]
      exact ih fun d hd => hrest d (List.mem_cons_of_mem _ hd)
  have htarget : t.handle = .appFunc ∨ t.handle = .dynApp := by
    cases form with
    | func => exact .inl ht
    | object => exact .inr ht
    | legacy => exact absurd rfl hform
  have hsearch : search Registry.builtin.edges v t = pure none := by
    rw [search, hhop htarget, pure_bind]
    exact hthrough _ fun _ => id
  rw [convertIn, Assembly.exec_get_bind, hs, convert, hsearch, pure_bind]
  simp only [Assembly.exec_lift_bind, Assembly.exec_throw]
  exact ⟨_, rfl⟩

/-- A value comes to functions exactly if it comes to objects, with the same behaviour. -/
lemma convertIn_func_object (v : Value) :
    (∃ a out s₁ out' s₂,
      (convertIn k v (Convention.ofShape .appFunc)).exec s = (.ok out, s₁) ∧
      out.Presents .func a ∧
      (convertIn k v (Convention.ofShape .dynApp)).exec s = (.ok out', s₂) ∧
      out'.Presents .object a) ∨
    ∃ s₁ s₂,
      (convertIn k v (Convention.ofShape .appFunc)).exec s =
        (.error (.noConversion v.shape (Convention.ofShape .appFunc)), s₁) ∧
      (convertIn k v (Convention.ofShape .dynApp)).exec s =
        (.error (.noConversion v.shape (Convention.ofShape .dynApp)), s₂) := by
  have hfunc : AppForm.func ≠ .legacy := nofun
  have hobject : AppForm.object ≠ .legacy := nofun
  by_cases hv : ∃ a, v.StandsFor a
  · obtain ⟨a, ha⟩ := hv
    obtain ⟨out, s₁, h, hout⟩ :=
      convertIn_of_standsFor hs ha hfunc (t := Convention.ofShape .appFunc) rfl
    obtain ⟨out', s₂, h', hout'⟩ :=
      convertIn_of_standsFor hs ha hobject (t := Convention.ofShape .dynApp) rfl
    exact .inl ⟨a, out, s₁, out', s₂, h, hout, h', hout'⟩
  · obtain ⟨s₁, h⟩ := convertIn_of_not_standsFor hs hv hfunc (t := Convention.ofShape .appFunc) rfl
    obtain ⟨s₂, h'⟩ :=
      convertIn_of_not_standsFor hs hv hobject (t := Convention.ofShape .dynApp) rfl
    exact .inr ⟨s₁, s₂, h, h'⟩

/-- Conversions to and fro between the two types of apps give an app of the last type that was asked
for, with the behaviour of the first one, and leave registries and components alone. -/
lemma exists_convertIn_forms {forms : List AppForm} (hforms : ∀ form ∈ forms, form ≠ .legacy)
    {v : Value} {form₀ : AppForm} {a : App} (hform₀ : form₀ ≠ .legacy)
    (hv : v.Presents form₀ a) :
    ∃ out s',
      (forms.foldlM (fun u form => convertIn k u (Convention.ofShape form.shape)) v).exec s =
        (.ok out, s') ∧
      out.Presents (forms.getLastD form₀) a ∧ s'.registries = s.registries ∧
        s'.cells = s.cells := by
  induction forms generalizing v form₀ s with
  | nil => exact ⟨v, s, rfl, hv, rfl, rfl⟩
  | cons form forms ih =>
    obtain ⟨hform, hforms⟩ := List.forall_mem_cons.1 hforms
    obtain ⟨a₀, hcontent, ha₀⟩ := hv
    obtain ⟨u, s₁, hconvert, a₁, hu, ha₁⟩ := convertIn_of_standsFor hs (.app hform₀ hcontent) hform
      (t := Convention.ofShape form.shape) (Convention.handle_ofShape _)
    have hstill := still_convertIn_builtin hs v (Convention.ofShape form.shape)
    rw [hconvert] at hstill
    have hs₁ : s₁.registry k = .builtin := by
      rw [State.registry, hstill.1]
      exact hs
    have hu : u.Presents form a :=
      ⟨a₁, hu, fun held depth => (ha₁ held depth).trans (ha₀ held depth)⟩
    obtain ⟨out, s', hrest, hout, hregistries, hcells⟩ := ih hs₁ hforms hform hu
    refine ⟨out, s', ?_, ?_, hregistries.trans hstill.1, hcells.trans hstill.2⟩
    · rw [List.foldlM_cons, Assembly.exec_bind_ok hconvert]
      exact hrest
    · rwa [List.getLastD_cons]

end Builtin

/-! ## Builds -/

namespace Builder

section Build

variable {b : Builder} {s s₁ s₂ : State} {app : Value} {e : BuildError} {type : Shape}

/-- A build fails when a stage cannot be put around the app. -/
lemma exec_build_of_fold_error
    (hfold : (fold b.conversions b.stages.reverse (b.terminal s)).exec s = (.error e, s₁)) :
    (b.build type).exec s = (.error e, s₁) := by
  rw [build, Assembly.exec_bind_error (exec_buildValue_of_fold_error hfold)]

variable (hfold : (fold b.conversions b.stages.reverse (b.terminal s)).exec s = (.ok app, s₁))
include hfold

/-- A build fails when what the stages leave does not come to the target. -/
lemma exec_build_of_convert_error
    (hconvert : (convertIn b.conversions app (Convention.ofShape type)).exec s₁ = (.error e, s₂)) :
    (b.build type).exec s = (.error e, s₂) := by
  rw [build, Assembly.exec_bind_error (exec_buildValue_of_convert_error hfold hconvert)]

/-- A build gives the app that what the stages leave is brought to. -/
lemma exec_build_of_presents {out : Value} (form : AppForm) {a : App}
    (hconvert :
      (convertIn b.conversions app (Convention.ofShape form.shape)).exec s₁ = (.ok out, s₂))
    (hout : out.Presents form a) :
    ∃ a' s', (b.build form.shape).exec s = (.ok (.app form a'), s') ∧ s'.cells = s₂.cells ∧
      ∀ held depth, a'.run held depth = a.run held depth := by
  obtain ⟨a', hcontent, ha'⟩ := hout
  have hget : out.get? form.shape = some (.app form a') := by
    rw [Value.get?, hcontent, Option.bind_some]
    exact if_pos rfl
  refine ⟨a', ((b.announce (Convention.ofShape form.shape) out).exec s₂).2, ?_, rfl, ha'⟩
  have hvalue : (b.buildValue (Convention.ofShape form.shape)).exec s =
      (.ok out, ((b.announce (Convention.ofShape form.shape) out).exec s₂).2) :=
    exec_buildValue_of_convert_ok hfold hconvert
  rw [build, Assembly.exec_bind_ok hvalue, hget]
  rfl

end Build

/-- A build that registers nothing has the registry that it started with when its stages have been
put around the terminal app. -/
lemma registry_of_fold {b : Builder} {t : Convention} {s s₁ : State} {app : Value}
    (hquiet : ((b.buildValue t).exec s).2.registrations = s.registrations)
    (hfold : (fold b.conversions b.stages.reverse (b.terminal s)).exec s = (.ok app, s₁)) :
    s₁.registry b.conversions = s.registry b.conversions := by
  rw [buildValue, Assembly.exec_get_bind] at hquiet
  obtain ⟨hregistry, -⟩ := (frames_fold _ _ _).quiet_of_bind
    (fun _ => (frames_convertIn _ _ _).bind (frames_reportBuilt _ _)) hfold hquiet
  exact hregistry b.conversions

/-- **Functions and objects are built alike.** With the two built-in conversions, and as long as
nothing that the build runs registers another one, a builder gives a function of the environment
exactly if it gives an object, from the same state. If it does not, the two builds fail for the same
reason, up to the type that was asked for. If it does, the two apps do the same with every
environment. Moreover, conversions to and fro between the two types succeed from every such state,
and leave an app what it is.

**Proof sketch.** Both builds put the same stages around the terminal app. What that leaves stands
for an app or not (`Value.standsFor_or`): in the first case it comes to both types with the
behaviour of that app, in the second one to none of them (`convertIn_func_object`). -/
theorem build_func_iff_object (b : Builder) (s : State)
    (hregistry : s.registry b.conversions = .builtin)
    (hquiet : ((b.buildValue (Convention.ofShape .appFunc)).exec s).2.registrations =
      s.registrations) :
    ((∃ c s₁, (b.build .appFunc).exec s = (.ok c, s₁)) ↔
      ∃ c s₂, (b.build .dynApp).exec s = (.ok c, s₂)) ∧
    (∀ e s₁ e' s₂, (b.build .appFunc).exec s = (.error e, s₁) →
      (b.build .dynApp).exec s = (.error e', s₂) →
        e' = e ∨ ∃ source, e = .noConversion source (Convention.ofShape .appFunc) ∧
          e' = .noConversion source (Convention.ofShape .dynApp)) ∧
    (∀ c s₁ c' s₂, (b.build .appFunc).exec s = (.ok c, s₁) →
      (b.build .dynApp).exec s = (.ok c', s₂) →
        ∃ a a', c = .app .func a ∧ c' = .app .object a' ∧
          (∀ held depth, a'.run held depth = a.run held depth) ∧
          ∀ env, s₂.serve a' env = s₁.serve a env) ∧
    ∀ (forms : List AppForm) (v : Value) (form : AppForm) (a : App), form ≠ .legacy →
      (∀ form ∈ forms, form ≠ .legacy) → v.content? = some (.app form a) →
        ∃ out s' a', (forms.foldlM
            (fun u form => convertIn b.conversions u (Convention.ofShape form.shape)) v).exec s =
              (.ok out, s') ∧
          out.content? = some (.app (forms.getLastD form) a') ∧
          (∀ held depth, a'.run held depth = a.run held depth) ∧
          ∀ env, s'.serve a' env = s.serve a env := by
  have hserve {σ τ : State} {a a' : App} (hcells : τ.cells = σ.cells)
      (ha : ∀ held depth, a'.run held depth = a.run held depth) (env : Environment) :
      τ.serve a' env = σ.serve a env := by
    have hheld : τ.heldApp = σ.heldApp := by
      funext c
      rw [State.heldApp, State.heldApp, State.cell, State.cell, hcells]
    rw [State.serve, State.serve, ha, hheld, hcells]
  have hforms (forms : List AppForm) (v : Value) (form : AppForm) (a : App)
      (hform : form ≠ .legacy) (hforms : ∀ form ∈ forms, form ≠ .legacy)
      (hv : v.content? = some (.app form a)) :
      ∃ out s' a', (forms.foldlM
          (fun u form => convertIn b.conversions u (Convention.ofShape form.shape)) v).exec s =
            (.ok out, s') ∧
        out.content? = some (.app (forms.getLastD form) a') ∧
        (∀ held depth, a'.run held depth = a.run held depth) ∧
        ∀ env, s'.serve a' env = s.serve a env := by
    obtain ⟨out, s', hexec, ⟨a', hout, ha'⟩, -, hcells⟩ :=
      exists_convertIn_forms hregistry hforms hform ⟨a, hv, fun _ _ => rfl⟩
    exact ⟨out, s', a', hexec, hout, ha', hserve hcells ha'⟩
  rcases hfold : (fold b.conversions b.stages.reverse (b.terminal s)).exec s with ⟨e | app, s₁⟩
  · -- the stages are not put around the terminal app, whatever is asked for
    have hfails (type : Shape) : (b.build type).exec s = (.error e, s₁) :=
      exec_build_of_fold_error hfold
    rw [hfails, hfails]
    refine ⟨Iff.rfl, ?_, ?_, hforms⟩
    · rintro _ _ _ _ ⟨⟩ ⟨⟩
      exact .inl rfl
    · rintro _ _ _ _ ⟨⟩
  have hs₁ : s₁.registry b.conversions = .builtin :=
    (registry_of_fold hquiet hfold).trans hregistry
  obtain ⟨a, out, s₂, out', s₂', hfunc, hout, hobject, hout'⟩ | ⟨s₂, s₂', hfunc, hobject⟩ :=
    convertIn_func_object hs₁ app
  · -- what they leave stands for an app
    have hcells := (still_convertIn_builtin hs₁ app (Convention.ofShape .appFunc)).2
    have hcells' := (still_convertIn_builtin hs₁ app (Convention.ofShape .dynApp)).2
    rw [hfunc] at hcells
    rw [hobject] at hcells'
    obtain ⟨a₁, s₃, hfunc, hcells₃, ha₁⟩ : ∃ a' s', (b.build .appFunc).exec s =
        (.ok (.app .func a'), s') ∧ s'.cells = s₂.cells ∧
          ∀ held depth, a'.run held depth = a.run held depth :=
      exec_build_of_presents hfold .func hfunc hout
    obtain ⟨a₂, s₄, hobject, hcells₄, ha₂⟩ : ∃ a' s', (b.build .dynApp).exec s =
        (.ok (.app .object a'), s') ∧ s'.cells = s₂'.cells ∧
          ∀ held depth, a'.run held depth = a.run held depth :=
      exec_build_of_presents hfold .object hobject hout'
    have hrun : ∀ held depth, a₂.run held depth = a₁.run held depth := fun held depth =>
      (ha₂ held depth).trans (ha₁ held depth).symm
    have hends : s₄.cells = s₃.cells :=
      (hcells₄.trans hcells').trans (hcells₃.trans hcells).symm
    rw [hfunc, hobject]
    refine ⟨⟨fun _ => ⟨_, _, rfl⟩, fun _ => ⟨_, _, rfl⟩⟩, ?_, ?_, hforms⟩
    · rintro _ _ _ _ ⟨⟩
    · rintro _ _ _ _ ⟨⟩ ⟨⟩
      exact ⟨a₁, a₂, rfl, rfl, hrun, hserve hends hrun⟩
  · -- it comes to neither of the types
    rw [exec_build_of_convert_error hfold hfunc, exec_build_of_convert_error hfold hobject]
    refine ⟨iff_of_false ?_ ?_, ?_, ?_, hforms⟩
    · rintro ⟨_, _, ⟨⟩⟩
    · rintro ⟨_, _, ⟨⟩⟩
    · rintro _ _ _ _ ⟨⟩ ⟨⟩
      exact .inr ⟨app.shape, rfl, rfl⟩
    · rintro _ _ _ _ ⟨⟩

/-- A component that stands for the pipeline itself, as the only stage. -/
theorem build_func_iff_object_wired :
    ∃ a s₁ a' s₂, ((⟨0, 0, [.wired "i" 0]⟩ : Builder).build .appFunc).exec (State.fresh 1) =
        (.ok (.app .func a), s₁) ∧
      ((⟨0, 0, [.wired "i" 0]⟩ : Builder).build .dynApp).exec (State.fresh 1) =
        (.ok (.app .object a'), s₂) ∧ ∀ env, s₂.serve a' env = s₁.serve a env := by
  obtain ⟨hiff, -, hsame, -⟩ :=
    build_func_iff_object ⟨0, 0, [.wired "i" 0]⟩ (State.fresh 1) rfl rfl
  obtain ⟨c', s₂, hobject⟩ := hiff.1 ⟨_, _, rfl⟩
  obtain ⟨a, a', ⟨⟩, rfl, -, hserve⟩ := hsame _ _ _ _ rfl hobject
  exact ⟨_, _, a', s₂, rfl, hobject, hserve⟩

end Builder

end Pipework
