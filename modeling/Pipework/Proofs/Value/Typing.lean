import Mathlib.Data.List.Forall2
import Pipework.Proofs.Engine.Exec

set_option autoImplicit false

/-!
# Calls keep to their types

A routine that gets contents of its parameter types gives a content of its result type, and the
arguments of a call give such contents unless one of them is a component type. Together: a call
with arguments that fit does not fail, and what it gives is plain data of the result type.

## Main definitions

* `Value.isComponentType` — the values that give nothing away.
* `Value.Gives` — a value that a parameter can be filled from.
* `Routine.Receives` — the contents that a routine has a case for.

## Main results

* `Content.exists_app`, `Content.exists_value`, … — a content is known from its shape.
* `extractAll_of_gives` — arguments that fit give contents of the parameter types.
* `Routine.receives_of_typed`, `ComponentType.exists_mount_args` — the cases that calls meet.
* `Routine.shape_run` — what a routine gives has its result type.
* `Routine.invoke_yields` — a call with arguments that fit.
-/

namespace Pipework

/-! ## Contents by their shapes -/

/-- No routine gives an environment on its way. -/
lemma Routine.out_ne_boxFuture (r : Routine) : r.out ≠ .atom .boxFuture := by
  cases r with
  | func f _ =>
    simp only [Routine.out]
    cases f.out with
    | app form => cases form <;> simp [Output.shape, AppForm.shape]
    | _ => simp [Output.shape]
  | _ => simp [Routine.out]

/-- No component has the type of all values. -/
lemma Instance.shape_ne_value (i : Instance) : i.shape ≠ .value := by
  cases i <;> simp [Instance.shape]

namespace Content

variable {c : Content}

/-- A content of the type of numbers is a number. -/
lemma exists_u32 (h : c.shape = .u32) : ∃ n, c = .datum (.u32 n) := by
  cases c with
  | datum d => cases d <;> simp [Content.shape, Datum.shape, Datum.atom] at h ⊢
  | app form a => cases form <;> simp [Content.shape, AppForm.shape] at h
  | component i => cases i <;> simp [Content.shape, Instance.shape] at h
  | _ => simp [Content.shape, Routine.shape] at h

/-- A content whose type is one of apps is an app. -/
lemma exists_app (form : AppForm) (h : c.shape = form.shape) : ∃ a, c = .app form a := by
  cases c with
  | datum d => cases form <;> simp [Content.shape, Datum.shape, AppForm.shape, Datum.atom] at h <;>
      cases d <;> simp at h
  | routine r =>
    cases form with
    | func =>
      simp only [Content.shape, Routine.shape, AppForm.shape, Shape.func.injEq] at h
      exact absurd h.2 r.out_ne_boxFuture
    | _ => simp [Content.shape, Routine.shape, AppForm.shape] at h
  | app form' a =>
    cases form <;> cases form' <;> simp [Content.shape, AppForm.shape] at h ⊢
  | component i =>
    cases form <;> cases i <;> simp [Content.shape, AppForm.shape, Instance.shape] at h
  | _ => cases form <;> simp [Content.shape, AppForm.shape] at h

/-- A content of the erased type is an erased value. -/
lemma exists_value (h : c.shape = .value) : ∃ v, c = .value v := by
  cases c with
  | datum d => cases d <;> simp [Content.shape, Datum.shape, Datum.atom] at h
  | app form a => cases form <;> simp [Content.shape, AppForm.shape] at h
  | component i => exact absurd h i.shape_ne_value
  | value v => exact ⟨v, rfl⟩
  | _ => simp [Content.shape, Routine.shape] at h

/-- A content of the type of tests is a test. -/
lemma exists_predicate (h : c.shape = .predicate) : ∃ t, c = .predicate t := by
  cases c with
  | datum d => cases d <;> simp [Content.shape, Datum.shape, Datum.atom] at h
  | app form a => cases form <;> simp [Content.shape, AppForm.shape] at h
  | component i => cases i <;> simp [Content.shape, Instance.shape] at h
  | predicate t => exact ⟨t, rfl⟩
  | _ => simp [Content.shape, Routine.shape] at h

/-- A content of the type of mount options is a path with a branch. -/
lemma exists_mapOptions (h : c.shape = .atom .mapOptions) :
    ∃ path branch, c = .mapOptions path branch := by
  cases c with
  | datum d => cases d <;> simp [Content.shape, Datum.shape, Datum.atom] at h
  | app form a => cases form <;> simp [Content.shape, AppForm.shape] at h
  | component i => cases i <;> simp [Content.shape, Instance.shape] at h
  | mapOptions path branch => exact ⟨path, branch, rfl⟩
  | _ => simp [Content.shape, Routine.shape] at h

end Content

/-! ## Arguments -/

/-- Whether a value is a component type. Its shape is known, but nothing can be taken out of it. -/
def Value.isComponentType : Value → Bool
  | .componentType _ => true
  | _ => false

/-- A parameter can be filled from a value: it takes any value, or it has the shape of the value
and the value gives away what it holds. -/
def Value.Gives (v : Value) (p : Shape) : Prop :=
  p = .value ∨ v.shape = p ∧ v.isComponentType = false

/-- A value that is no component type has a content of its shape. -/
lemma Value.exists_content {v : Value} (h : v.isComponentType = false) :
    ∃ c, v.content? = some c ∧ c.shape = v.shape := by
  obtain ⟨c, hc⟩ : ∃ c, v.content? = some c := by
    cases v <;> simp [Value.isComponentType, Value.content?] at h ⊢
  exact ⟨c, hc, v.shape_of_mem_content? hc⟩

/-- A typed look at a value succeeds exactly for the type of the value, and never for a component
type, which gives nothing away. -/
lemma Value.isSome_get?_iff {v : Value} {T : Shape} :
    (v.get? T).isSome = true ↔ v.shape = T ∧ v.isComponentType = false := by
  cases hv : v.isComponentType with
  | true =>
    cases v with
    | componentType t => simp [get?, content?]
    | _ => cases hv
  | false =>
    obtain ⟨c, hc, hshape⟩ := exists_content hv
    simp [get?, hc, hshape, apply_ite Option.isSome]

/-- A value that fits a parameter fills it, unless a component type meets a parameter for one. -/
lemma Value.gives_of_fits {v : Value} {p : Shape}
    (hv : v.isComponentType = false ∨ p ≠ .atom .componentType) (h : v.fits p = true) :
    v.Gives p := by
  simp only [Value.fits, Bool.or_eq_true, decide_eq_true_eq] at h
  obtain rfl | hp := h
  · refine .inr ⟨rfl, hv.elim id fun hne => ?_⟩
    cases v with
    | componentType t => exact absurd rfl hne
    | _ => rfl
  · exact .inl hp

/-- A value that fits a parameter and is no component type gives a content of its type. -/
lemma extractFrom_of_gives {v : Value} {p : Shape} (h : v.Gives p) (index : Nat) :
    ∃ c, extractFrom index v p = .ok c ∧ c.shape = p := by
  unfold extractFrom
  split
  · next hp => exact ⟨.value v, rfl, hp.symm⟩
  · next hp =>
    obtain ⟨hs, hv⟩ := h.resolve_left hp
    obtain ⟨c, hc, hcs⟩ := Value.exists_content hv
    have hg : v.get? p = some c := by simp [Value.get?, hc, hcs.trans hs]
    exact ⟨c, by rw [hg], hcs.trans hs⟩

/-- Contents of the types of parameters, one for each. -/
abbrev Typed (cs : List Content) (params : List Shape) : Prop :=
  List.Forall₂ (fun c p => c.shape = p) cs params

/-- Arguments that give their parameters are extracted, with contents of these types. -/
lemma extractList_of_gives {args : Args} {params : List Shape}
    (h : List.Forall₂ Value.Gives args params) :
    ∀ index, ∃ cs, extractList index params args = .ok cs ∧ Typed cs params := by
  induction h with
  | nil => exact fun _ => ⟨[], rfl, .nil⟩
  | cons hv _ ih =>
    intro index
    obtain ⟨c, hc, hcs⟩ := extractFrom_of_gives hv index
    obtain ⟨cs, hl, ht⟩ := ih (index + 1)
    exact ⟨c :: cs, by simp [extractList, hc, hl], .cons hcs ht⟩

/-- Arguments that fit give contents of the parameter types. -/
lemma extractAll_of_gives {args : Args} {params : List Shape}
    (h : List.Forall₂ Value.Gives args params) :
    ∃ cs, extractAll params args = .ok cs ∧ Typed cs params := by
  obtain ⟨cs, hl, ht⟩ := extractList_of_gives h 0
  exact ⟨cs, by simp [extractAll, h.length_eq, hl], ht⟩

/-- An app is given away as it is, before the contents of the other arguments. -/
lemma extractAll_app {v : Value} {form : AppForm} {a : App} (hv : v.content? = some (.app form a))
    {args : Args} {params : List Shape} (h : List.Forall₂ Value.Gives args params) :
    ∃ cs, extractAll (form.shape :: params) (v :: args) = .ok (.app form a :: cs) ∧
      Typed cs params := by
  have hfirst : extractFrom 0 v form.shape = .ok (.app form a) := by
    have hne : form.shape ≠ .value := by cases form <;> exact nofun
    have hshape : (Content.app form a).shape = form.shape := rfl
    simp [extractFrom, Value.get?, hv, hne, hshape]
  obtain ⟨cs, hl, ht⟩ := extractList_of_gives h 1
  exact ⟨cs, by simp [extractAll, extractList, h.length_eq, hfirst, hl], ht⟩

/-- Arguments fit parameters one by one. -/
lemma Args.fits_iff {args : Args} {params : List Shape} :
    args.fits params = true ↔ List.Forall₂ (fun v p => v.fits p = true) args params := by
  induction args generalizing params with
  | nil => cases params <;> simp [Args.fits]
  | cons v args ih => cases params <;> simp [Args.fits, ih]

/-- Arguments that fit fill the parameters, if none of them is a component type or no parameter is
for one. -/
lemma Args.gives_of_fits {args : Args} {params : List Shape} (h : args.fits params = true)
    (hv : (∀ v ∈ args, v.isComponentType = false) ∨ .atom .componentType ∉ params) :
    List.Forall₂ Value.Gives args params := by
  have h' := Args.fits_iff.1 h
  clear h
  induction h' with
  | nil => exact .nil
  | cons hp _ ih =>
    refine .cons (Value.gives_of_fits (hv.imp ?_ ?_) hp) (ih (hv.imp ?_ ?_))
    · exact fun h => h _ List.mem_cons_self
    · exact fun h he => h (he ▸ List.mem_cons_self)
    · exact fun h v hm => h v (List.mem_cons_of_mem _ hm)
    · exact fun h hm => h (List.mem_cons_of_mem _ hm)

/-- What is taken from an argument, but not for a parameter of any value, is its content. -/
lemma content?_of_extractFrom {index : Nat} {v : Value} {p : Shape} {c : Content}
    (h : extractFrom index v p = .ok c) (hp : p ≠ .value) : v.content? = some c := by
  rw [extractFrom, if_neg hp] at h
  split at h
  · next c' hc =>
    cases h
    obtain ⟨d, hd, hdc⟩ := Option.bind_eq_some_iff.1 hc
    rw [hd, (Option.ite_none_right_eq_some.1 hdc).2]
  · cases h

/-- What is taken from an argument has the type of the parameter. -/
lemma shape_of_extractFrom {index : Nat} {v : Value} {p : Shape} {c : Content}
    (h : extractFrom index v p = .ok c) : c.shape = p := by
  unfold extractFrom at h
  split at h
  · next hp =>
    cases h
    exact hp.symm
  · split at h
    · next c' hc =>
      cases h
      obtain ⟨d, -, hd⟩ := Option.bind_eq_some_iff.1 hc
      split at hd
      · next hs =>
        cases hd
        exact hs
      · cases hd
    · cases h

/-- What is extracted from arguments has the types of the parameters. -/
lemma typed_of_extractList {params : List Shape} {args : Args}
    (hlength : args.length = params.length) :
    ∀ {index cs}, extractList index params args = .ok cs → Typed cs params := by
  induction params generalizing args with
  | nil =>
    intro index cs h
    cases args <;> cases h <;> exact .nil
  | cons p params ih =>
    intro index cs h
    cases args with
    | nil => cases hlength
    | cons v args =>
      unfold extractList at h
      cases hc : extractFrom index v p with
      | error e => simp [hc] at h
      | ok c =>
        cases hcs : extractList (index + 1) params args with
        | error e => simp [hc, hcs] at h
        | ok cs' =>
          simp only [hc, hcs, Except.ok.injEq] at h
          subst h
          exact .cons (shape_of_extractFrom hc) (ih (Nat.succ.inj hlength) hcs)

/-- What is taken from arguments has the types of the parameters. -/
lemma typed_of_extractAll {params : List Shape} {args : Args} {cs : List Content}
    (h : extractAll params args = .ok cs) : Typed cs params := by
  unfold extractAll at h
  split at h
  · cases h
  · next hlength => exact typed_of_extractList (not_not.1 hlength) h

/-! ## Cases that calls meet -/

/-- The contents that a routine has a case for. -/
inductive Routine.Receives : Routine → List Content → Prop
  | func (f : Func) (owner : Option CellId) (cs : List Content) : Receives (.func f owner) cs
  | num (n : Num) (x : UInt32) : Receives (.num n) [.datum (.u32 x)]
  | toObject (a : App) : Receives .toObject [.app .func a]
  | toFunc (a : App) : Receives .toFunc [.app .object a]
  | register (k : RegistryId) (v : Value) : Receives (.register k) [.value v]
  | layer (l : Layer) (a : App) : Receives (.layer l) [.app .func a]
  | handler (a : App) (cs : List Content) : Receives (.handler a) cs
  | choose (next : App) (c : Cond) (branch : App) :
    Receives .choose [.app .func next, .predicate c, .app .func branch]

/-- A routine has a case for all contents of its parameter types, so that no call comes to the last
case of `Routine.run`. -/
lemma Routine.receives_of_typed {r : Routine} {cs : List Content} (h : Typed cs r.params) :
    r.Receives cs := by
  cases r with
  | func f owner => exact .func f owner cs
  | num n =>
    obtain _ | ⟨hc, _ | _⟩ := h
    obtain ⟨x, rfl⟩ := Content.exists_u32 hc
    exact .num n x
  | toObject =>
    obtain _ | ⟨hc, _ | _⟩ := h
    obtain ⟨a, rfl⟩ := Content.exists_app .func hc
    exact .toObject a
  | toFunc =>
    obtain _ | ⟨hc, _ | _⟩ := h
    obtain ⟨a, rfl⟩ := Content.exists_app .object hc
    exact .toFunc a
  | register k =>
    obtain _ | ⟨hc, _ | _⟩ := h
    obtain ⟨v, rfl⟩ := Content.exists_value hc
    exact .register k v
  | layer l =>
    obtain _ | ⟨hc, _ | _⟩ := h
    obtain ⟨a, rfl⟩ := Content.exists_app .func hc
    exact .layer l a
  | handler a => exact .handler a cs
  | choose =>
    obtain _ | ⟨h₁, _ | ⟨h₂, _ | ⟨h₃, _ | _⟩⟩⟩ := h
    obtain ⟨next, rfl⟩ := Content.exists_app .func h₁
    obtain ⟨c, rfl⟩ := Content.exists_predicate h₂
    obtain ⟨branch, rfl⟩ := Content.exists_app .func h₃
    exact .choose next c branch

/-- A mounted branch is made from an app and options, so that no constructor comes to the last case
of `ComponentType.make`. -/
lemma ComponentType.exists_mount_args {params : List Shape}
    (hctor : params ∈ ComponentType.mount.ctors) {cs : List Content} (h : Typed cs params) :
    ∃ next path branch, cs = [.app .func next, .mapOptions path branch] := by
  obtain rfl : params = [.appFunc, .atom .mapOptions] := List.mem_singleton.1 hctor
  obtain _ | ⟨hnext, _ | ⟨hoptions, _ | _⟩⟩ := h
  obtain ⟨next, rfl⟩ := Content.exists_app .func hnext
  obtain ⟨path, branch, rfl⟩ := Content.exists_mapOptions hoptions
  exact ⟨next, path, branch, rfl⟩

/-! ## Results -/

/-- An app in some form has the shape of this form. -/
lemma AppForm.shape_wrap (form : AppForm) (a : App) : (form.wrap a).shape = form.shape := by
  cases form <;> rfl

/-- The result of a function has the type that the function declares. -/
lemma Func.shape_result (f : Func) (trace : String) (args : List Held) (s : State) :
    ((f.result trace args).exec s).1.shape = f.out.shape := by
  unfold Func.result
  cases f.out with
  | numFn => dsimp only; split <;> rfl
  | app form => exact form.shape_wrap _
  | _ => rfl

/-- What a function gives has the type that the function declares. -/
lemma Func.shape_run (f : Func) (owner : Option CellId) (args : List Content) (s : State) :
    ((f.run owner args).exec s).1.shape = f.out.shape := by
  simp only [Func.run, Engine.exec_bind]
  split <;> exact f.shape_result _ _ _

/-- What a routine makes of contents of its parameter types has its result type. -/
lemma Routine.shape_run {r : Routine} {cs : List Content} (h : Typed cs r.params) (s : State) :
    ((r.run cs).exec s).1.shape = r.out := by
  cases receives_of_typed h with
  | func f owner cs => exact f.shape_run owner cs s
  | register k v =>
    simp only [Routine.run, Engine.exec_bind]
    split <;> rfl
  | num n x | toObject a | toFunc a | layer l a | handler a cs | choose next c branch => rfl

/-- A call whose arguments give contents runs its routine on them. -/
lemma Routine.exec_invoke {r : Routine} {args : Args} {cs : List Content}
    (h : extractAll r.params args = .ok cs) (s : State) :
    (r.invoke args).exec s = (.ok (.data ((r.run cs).exec s).1), ((r.run cs).exec s).2) := by
  unfold Routine.invoke
  rw [h, Assembly.exec_bind_ok (Assembly.exec_ofExcept _ s), Assembly.exec_lift_bind]
  rfl

/-- What cannot be taken from the arguments fails a call before the routine runs. -/
lemma Routine.exec_invoke_of_error {r : Routine} {args : Args} {e : BuildError}
    (h : extractAll r.params args = .error e) (s : State) :
    (r.invoke args).exec s = (.error e, s) := by
  rw [invoke, h, Assembly.exec_bind_error (Assembly.exec_ofExcept _ s)]

/-- A constructor whose arguments give contents makes a component from them. -/
lemma ComponentType.exec_constructWith {t : ComponentType} {params : List Shape} {args : Args}
    {cs : List Content} (h : extractAll params args = .ok cs) (s : State) :
    (t.constructWith params args).exec s =
      (.ok (.component ((t.make cs).exec s).1), ((t.make cs).exec s).2) := by
  unfold constructWith
  rw [h, Assembly.exec_bind_ok (Assembly.exec_ofExcept _ s), Assembly.exec_lift_bind]
  rfl

/-- A call with arguments that fit does not fail. It gives plain data of the result type. -/
lemma Routine.invoke_yields {r : Routine} {args : Args}
    (h : List.Forall₂ Value.Gives args r.params) :
    (r.invoke args).Yields fun out => ∃ c, out = .data c ∧ c.shape = r.out := by
  intro s
  obtain ⟨cs, hx, ht⟩ := extractAll_of_gives h
  exact ⟨_, _, exec_invoke hx s, _, rfl, Routine.shape_run ht s⟩

/-- A call that succeeds has run its routine on the contents of the arguments. -/
lemma Routine.exists_extractAll_of_invoke {r : Routine} {args : Args} {out : Value} {s s' : State}
    (h : (r.invoke args).exec s = (.ok out, s')) :
    ∃ cs, extractAll r.params args = .ok cs ∧ out = .data ((r.run cs).exec s).1 ∧
      s' = ((r.run cs).exec s).2 := by
  cases hcs : extractAll r.params args with
  | error e =>
    rw [invoke, hcs, Assembly.exec_bind_error (Assembly.exec_ofExcept _ s)] at h
    cases h
  | ok cs =>
    rw [exec_invoke hcs] at h
    cases h
    exact ⟨cs, rfl, rfl, rfl⟩

/-- A call that succeeds gives plain data of the result type. -/
lemma Routine.exists_of_invoke {r : Routine} {args : Args} {out : Value} {s s' : State}
    (h : (r.invoke args).exec s = (.ok out, s')) : ∃ c, out = .data c ∧ c.shape = r.out := by
  obtain ⟨cs, hcs, rfl, -⟩ := exists_extractAll_of_invoke h
  exact ⟨_, rfl, Routine.shape_run (typed_of_extractAll hcs) s⟩

end Pipework
