import Pipework.Proofs.Conversion.Plan
import Pipework.Proofs.Engine.Frame
import Pipework.Proofs.Engine.Within
import Pipework.Session.Run

set_option autoImplicit false

/-!
# The history of a registry

Conversions are registered through a builder, through the callable in a property bag, and by
functions that run in a call, a conversion or a build. Whatever the history of a registry, it is
what the successful registrations, in their order, make of it.

## Main definitions

* `Command`, `History` — what is done from a state on, and the registrations that this leads to.

## Main results

* `Conversion.exists_ofValue_iff` — the values that can be registered.
* `Command.exists_registers` — every command can take place after every history.
* `convert_of_directEdge` — a conversion in one hop.
* `registry_of_history` — a registry after a history.
-/

namespace Pipework

/-! ## One registration -/

namespace Conversion

/-- A value can be registered exactly if it can be called dynamically, with one parameter. -/
lemma exists_ofValue_iff (v : Value) :
    (∃ c, ofValue v = .ok c) ↔ ∃ r p, v = .callable r ∧ r.params = [p] := by
  constructor
  · rintro ⟨c, h⟩
    cases v with
    | callable r =>
      simp only [ofValue, Value.routine?, ofRoutine] at h
      split at h
      · next p hp => exact ⟨r, p, rfl, hp⟩
      · cases h
    | _ => cases h
  · rintro ⟨r, p, rfl, hp⟩
    exact ⟨⟨p, r.out, r⟩, by simp [ofValue, Value.routine?, ofRoutine, hp]⟩

/-- A value that cannot be registered is an invalid argument. -/
lemma exists_text_of_ofValue {v : Value} {e : BuildError} (h : ofValue v = .error e) :
    ∃ text, e = .invalidArgument "conversion" text := by
  unfold ofValue ofRoutine at h
  split at h
  · split at h
    · cases h
    · cases h
      exact ⟨_, rfl⟩
  · cases h
    exact ⟨_, rfl⟩

end Conversion

/-- The registration of a value, if it can be registered. -/
def Registration.ofValue (k : RegistryId) (v : Value) : List Registration :=
  match Conversion.ofValue v with
  | .ok c => [⟨k, c⟩]
  | .error _ => []

namespace Assembly

/-- Calls the callable that registers conversions in a registry. -/
def callRegister (k : RegistryId) (v : Value) : Assembly Value :=
  (Value.callable (.register k)).invoke [v]

variable {p : BagId} {k : RegistryId} {v : Value} {s : State}

/-- A call of the registration callable registers a value and gives back how that has ended. -/
lemma exec_callRegister (k : RegistryId) (v : Value) (s : State) :
    (callRegister k v).exec s =
      (.ok (.data (.registration (match ((register k v).exec s).1 with
        | .ok _ => none
        | .error e => some e))), ((register k v).exec s).2) := by
  have hargs : extractAll (Routine.register k).params [v] = .ok [.value v] := rfl
  refine (Routine.exec_invoke hargs s).trans ?_
  rw [Routine.run, Engine.exec_bind]
  change (_, _) = (_, (Engine.exec (register k v).run s).2)
  unfold exec
  rcases Engine.exec (register k v).run s with ⟨_ | _, s'⟩ <;> rfl

/-- The callable in a bag registers in the registry that it was made for. -/
lemma exec_registerByBag
    (h : (s.bag p).get? addConversionKey = some (.callable (.register k))) :
    (Session.registerByBag p v).exec s =
      (((register k v).exec s).1.map some, ((register k v).exec s).2) := by
  have hget : (Value.callable (.register k)).get? (.func [.value] (.atom .registration)) =
      some (.routine (.register k)) := rfl
  rw [Session.registerByBag, exec_get_bind, h]
  dsimp only
  rw [Option.bind_some, hget]
  dsimp only
  rw [exec_bind]
  rcases (register k v).exec s with ⟨_ | _, s'⟩ <;> rfl

/-- Registering a value leads to its registration, or changes nothing. -/
lemma registers_register (k : RegistryId) (v : Value) (s : State) :
    State.Registers (Registration.ofValue k v) s ((register k v).exec s).2 := by
  unfold Registration.ofValue
  cases h : Conversion.ofValue v with
  | ok c =>
    rw [exec_register_ok h]
    exact Engine.registers_addConversion k ⟨v, h⟩ s
  | error e =>
    rw [exec_register_error h]
    exact .refl s

end Assembly

/-! ## Functions -/

/-- Writing down a value registers nothing. -/
lemma Expr.registers_eval : ∀ (e : Expr) (s : State), State.Registers [] s (e.eval.exec s).2
  | .datum _, s => .refl s
  | .func _ true, s => .refl s
  | .func _ false, s => .refl s
  | .app _ _ true, s => .refl s
  | .app _ _ false, s => .refl s
  | .numData _ _, s => .refl s
  | .num _ _ true, s => .refl s
  | .num _ _ false, s => .refl s
  | .value inner, s => inner.registers_eval s
  | .component _ _ _ none, _ => .of_eq rfl rfl rfl
  | .component _ _ _ (some callable), s =>
    (callable.registers_eval s).trans (.of_eq rfl rfl rfl)
  | .componentData _ _, _ => .of_eq rfl rfl rfl
  | .componentType _ _ _ _, s => .refl s
  | .mountType, s => .refl s
  | .mapOptions _ _, s => .refl s
  | .var _, s => .refl s

/-- Registrations of steps one after the other follow one another. -/
lemma Engine.registers_forM {α : Type} {f : α → Engine PUnit} {r : α → List Registration}
    (h : ∀ a s, State.Registers (r a) s ((f a).exec s).2) (l : List α) (s : State) :
    State.Registers (l.flatMap r) s ((l.forM f).exec s).2 := by
  induction l generalizing s with
  | nil => exact .refl s
  | cons a l ih => exact (h a s).trans (ih _)

/-- The registrations of a function: those of the functions that it registers, at the root. What is
no conversion is passed over. -/
def Func.registrations (f : Func) : List Registration :=
  f.registers.flatMap fun g => Registration.ofValue State.rootRegistry (.callable (.func g none))

/-- A function that runs makes its registrations, in order, and nothing else that it does registers
anything. -/
lemma Func.registers_effects (f : Func) (trace : String) (s : State) :
    State.Registers f.registrations s ((f.effects trace).exec s).2 := by
  have hlog : State.Registers [] s ((Engine.logCall trace).exec s).2 := .of_eq rfl rfl rfl
  have hregister (g : Func) (s : State) : State.Registers
      (Registration.ofValue State.rootRegistry (.callable (.func g none))) s
      ((match Conversion.ofRoutine (.func g none) with
        | .ok c => Engine.addConversion State.rootRegistry c
        | .error _ => pure () : Engine Unit).exec s).2 := by
    have hvalue : Conversion.ofValue (.callable (.func g none)) =
        Conversion.ofRoutine (.func g none) := rfl
    unfold Registration.ofValue
    rw [hvalue]
    cases hg : Conversion.ofRoutine (.func g none) with
    | ok c => exact Engine.registers_addConversion _ ⟨.callable (.func g none), hg⟩ s
    | error e => exact .refl s
  have hwrite (w : String × Expr) (s : State) : State.Registers [] s
      ((do
        let v ← w.2.eval
        discard (Engine.setProperty State.rootBag w.1 v) : Engine Unit).exec s).2 :=
    (w.2.registers_eval s).trans (.updateBag _ _ _)
  have hall := (hlog.trans (Engine.registers_forM hregister f.registers _)).trans
    (Engine.registers_forM hwrite f.writes _)
  have hnil : f.writes.flatMap (fun _ => ([] : List Registration)) = [] :=
    List.flatMap_eq_nil_iff.2 fun _ _ => rfl
  rw [List.nil_append, hnil, List.append_nil] at hall
  exact hall

/-! ## Histories -/

/-- What can be done with builders and values. Builders with one registry, such as a builder and its
branches and clones, register in the same one. -/
inductive Command where
  /-- Registers a value through a builder. -/
  | register (b : Builder) (v : Value)
  /-- Registers a value through the callable that the bag of a new builder holds. -/
  | callRegister (k : RegistryId) (v : Value)
  /-- Registers a value through the callable that the bag of a builder holds now. -/
  | registerByBag (b : Builder) (v : Value)
  | setProperty (b : Builder) (key : String) (v : Value)
  | removeProperty (b : Builder) (key : String)
  | useStage (b : Builder) (v : Value) (args : Args)
  | invoke (v : Value) (args : Args)
  | convert (b : Builder) (v : Value) (t : Convention)
  | build (b : Builder) (t : Convention)

namespace Command

/-- Carries out a command. A command that fails keeps what it has changed. -/
def exec (s : State) : Command → State
  | register b v => ((Assembly.register b.conversions v).exec s).2
  | callRegister k v => ((Assembly.callRegister k v).exec s).2
  | registerByBag b v => ((Session.registerByBag b.properties v).exec s).2
  | setProperty b key v => ((Engine.setProperty b.properties key v).exec s).2
  | removeProperty b key => ((Engine.removeProperty b.properties key).exec s).2
  | useStage b v args => ((b.useStage v args).exec s).2
  | invoke v args => ((v.invoke args).exec s).2
  | convert b v t => ((convertIn b.conversions v t).exec s).2
  | build b t => ((b.buildValue t).exec s).2

/-- The registrations of a command that are known in advance. In a call, a conversion and a build it
is up to the functions that run what they register. -/
def registrations? (s : State) : Command → Option (List Registration)
  | register b v => some (Registration.ofValue b.conversions v)
  | callRegister k v => some (Registration.ofValue k v)
  | registerByBag b v =>
    match (s.bag b.properties).get? addConversionKey with
    | some (.callable (.register g)) => some (Registration.ofValue g v)
    | _ => none
  | setProperty _ _ _ => some []
  | removeProperty _ _ => some []
  | useStage _ _ _ => some []
  | invoke _ _ => none
  | convert _ _ _ => none
  | build _ _ => none

end Command

/-- From `s` on, some commands have led to the registrations `l` and to another state. -/
inductive History (s : State) : List Registration → State → Prop
  | start : History s [] s
  | step {l l' : List Registration} {s' : State} (h : History s l s') (c : Command)
      (hl : State.Registers l' s' (c.exec s'))
      (hc : ∀ own, c.registrations? s' = some own → l' = own) : History s (l ++ l') (c.exec s')

namespace History

variable {s s' : State} {l : List Registration}

/-- What a history has registered leads from its start to its end. -/
lemma registers (h : History s l s') : State.Registers l s s' := by
  induction h with
  | start => exact .refl s
  | step _ _ hl _ ih => exact ih.trans hl

end History

/-- Registering through a bag changes no cell. -/
lemma Assembly.frames_registerByBag (touched : Set CellId) (p : BagId) (v : Value) :
    (Session.registerByBag p v).Frames touched := by
  refine .get_bind fun s => ?_
  dsimp only
  split
  · next g _ =>
    have hregister : (Assembly.register g v).Composed touched := .register g v
    exact hregister.frames.bind fun _ => .pure (some ())
  · exact .pure none

/-- Registering through a bag stays within what registrations stay within. -/
lemma Assembly.within_registerByBag {ρ : State → State → Prop} (hρ : State.CallRelation ρ)
    (p : BagId) (v : Value) : (Session.registerByBag p v).Within ρ := by
  intro s
  rw [Session.registerByBag, exec_get_bind]
  dsimp only
  split
  · next r _ =>
    have hP := hρ.passes.assembly
    exact hP.bind (hρ.register r v) (fun _ => hP.pure (some ())) s
  · exact hρ.refl s

/-- Adding a stage registers nothing. -/
lemma Builder.registers_useStage (b : Builder) (v : Value) (args : Args) (s : State) :
    State.Registers [] s ((b.useStage v args).exec s).2 := by
  cases h : Stage.resolve v args with
  | error e =>
    rw [b.exec_useStage_error h]
    exact .refl s
  | ok st =>
    rw [b.exec_useStage_ok h]
    exact .of_eq rfl rfl (by simp [Event.isRegistration])

/-- Every command can take place after every history. -/
theorem Command.exists_registers (c : Command) (s : State) :
    ∃ l, State.Registers l s (c.exec s) ∧ ∀ own, c.registrations? s = some own → l = own := by
  have hown {l : List Registration} {own : Option (List Registration)} (ho : own = some l) :
      ∀ own', own = some own' → l = own' := fun _ h => Option.some.inj (ho.symm.trans h)
  cases c with
  | register b v => exact ⟨_, Assembly.registers_register b.conversions v s, hown rfl⟩
  | callRegister k v =>
    refine ⟨_, ?_, hown rfl⟩
    rw [exec, Assembly.exec_callRegister]
    exact Assembly.registers_register k v s
  | registerByBag b v =>
    obtain ⟨l, hl⟩ := (Assembly.frames_registerByBag ∅ b.properties v s).exists_registers
    cases hr : (Command.registerByBag b v).registrations? s with
    | none => exact ⟨l, hl, nofun⟩
    | some own =>
      rw [registrations?] at hr
      split at hr
      · next g hbag =>
        cases hr
        refine ⟨_, ?_, hown rfl⟩
        rw [exec, Assembly.exec_registerByBag hbag]
        exact Assembly.registers_register g v s
      · cases hr
  | setProperty b key v => exact ⟨[], .updateBag s b.properties _, hown rfl⟩
  | removeProperty b key => exact ⟨[], .updateBag s b.properties _, hown rfl⟩
  | useStage b v args => exact ⟨[], b.registers_useStage v args s, hown rfl⟩
  | invoke v args =>
    obtain ⟨l, hl⟩ := ((v.composed_invoke args).frames s).exists_registers
    exact ⟨l, hl, nofun⟩
  | convert b v t =>
    obtain ⟨l, hl⟩ := (frames_convertIn b.conversions v t s).exists_registers
    exact ⟨l, hl, nofun⟩
  | build b t =>
    obtain ⟨l, hl⟩ := (b.frames_buildValue t s).exists_registers
    exact ⟨l, hl, nofun⟩

/-! ## One hop -/

/-- A conversion along the first edge that leads straight to the target. -/
lemma convert_of_directEdge {edges : List Conversion} {v : Value} {t : Convention} {c : Conversion}
    (hc : c.Sound) (hfind : directEdge? edges v t = some c) (hshape : v.shape ≠ t.handle)
    (hv : v.component? = none) (hct : v.isComponentType = false) (s : State) :
    ∃ out s', (c.apply v).exec s = (.ok out, s') ∧ out.shape = t.handle ∧
      (convert edges v t).exec s = (.ok out, { s' with
        events := s'.events ++ [.converted v.shape t 1]
        tally := s'.tally.raise (.conversion 1) 1 }) := by
  have hp : c.target = t.handle ∧ c.accepts v = true := by simpa using List.find?_some hfind
  obtain ⟨out, s', happly, hout, -⟩ := Conversion.apply_yields hc hct hp.2 s
  refine ⟨out, s', happly, ?_, ?_⟩
  · rw [← hp.1]
    exact congrArg Outline.shape hout
  · have hsat : v.satisfies t = false := by
      simpa [Value.satisfies, Convention.isSatisfiedBy, eq_comm] using hshape
    have hbound : boundInvoke? v t = none := by simp [boundInvoke?, hv]
    have hhop : (oneHop edges v t).exec s = (.ok (some (out, 1)), s') := by
      rw [oneHop, hsat, if_neg Bool.false_ne_true, hbound, hfind]
      exact (Assembly.exec_bind_ok happly).trans rfl
    have hsearch : (search edges v t).exec s = (.ok (some (out, 1)), s') :=
      (Assembly.exec_bind_ok hhop).trans rfl
    rw [convert, Assembly.exec_bind_ok hsearch, Assembly.exec_lift_bind, Assembly.exec_lift_bind]
    rfl

/-- A value that is a function of the environment or an object is no component. -/
lemma Value.component?_of_shape {v : Value} {form : AppForm} (h : v.shape = form.shape) :
    v.component? = none ∧ v.isComponentType = false := by
  cases v with
  | component i => cases form <;> cases i <;> cases h
  | componentType t => cases form <;> cases h
  | _ => exact ⟨rfl, rfl⟩

/-- When the two built-in conversions were registered first, the first two edges lead between the
two types of apps. -/
lemma Registry.Reflects.exists_builtin {r : Registry} {cs : List Conversion}
    (h : r.Reflects (.toObject :: .toFunc :: cs)) :
    ∃ e₀ e₁ rest, r.edges = e₀ :: e₁ :: rest ∧ e₀.key = (.appFunc, .dynApp) ∧
      e₁.key = (.dynApp, .appFunc) := by
  have hfirst : ([Conversion.toObject, .toFunc].map Conversion.key).eraseDups =
      [(.appFunc, .dynApp), (.dynApp, .appFunc)] := rfl
  have horder : r.edges.map Conversion.key =
      (([Conversion.toObject, .toFunc] ++ cs).map Conversion.key).eraseDups := h.order
  rw [List.map_append, List.eraseDups_append, hfirst] at horder
  obtain ⟨e₀, tail, hedges, he₀, htail⟩ := List.map_eq_cons_iff.1 horder
  obtain ⟨e₁, rest, rfl, he₁, -⟩ := List.map_eq_cons_iff.1 htail
  exact ⟨e₀, e₁, rest, hedges, he₀, he₁⟩

/-- The first of two edges between the two types of apps is the one that an app takes to the other
type. -/
lemma directEdge?_of_builtin {e₀ e₁ : Conversion} {rest : List Conversion}
    (h₀ : e₀.key = (.appFunc, .dynApp)) (h₁ : e₁.key = (.dynApp, .appFunc)) {e : Conversion}
    (he : e ∈ [e₀, e₁]) {v : Value} {t : Convention} (hv : v.shape = e.source)
    (ht : t.handle = e.target) :
    directEdge? (e₀ :: e₁ :: rest) v t = some e ∧ v.shape ≠ t.handle ∧
      ∃ form : AppForm, v.shape = form.shape := by
  obtain ⟨hs₀, ht₀⟩ := Prod.mk.inj h₀
  obtain ⟨hs₁, ht₁⟩ := Prod.mk.inj h₁
  have hcases : e = e₀ ∨ e = e₁ := by simpa using he
  obtain rfl | rfl := hcases
  · refine ⟨?_, ?_, .func, hv.trans hs₀⟩
    · simp [directEdge?, ht, Conversion.accepts, Value.fits, hv]
    · simp [hv, ht, hs₀, ht₀]
  · refine ⟨?_, ?_, .object, hv.trans hs₁⟩
    · simp [directEdge?, ht, Conversion.accepts, Value.fits, hv, ht₀, ht₁]
    · simp [hv, ht, hs₁, ht₁]

/-! ## The registry after a history -/

/-- A builder starts with a new registry, which holds the built-in conversions. -/
lemma Builder.registry_of_make {s₀ s : State} {b : Builder} (h : make.exec s₀ = (b, s)) :
    b.conversions < s.registries.length ∧ s.registry b.conversions = .builtin := by
  cases h
  simp [State.registry]

/-- **A registry reflects its history.** After any commands, the registry of a builder
that was made at the beginning holds the two built-in conversions and all conversions that have been
registered since: one edge for any two types, in the order of the first registration between them,
with the converter of the last. The first two edges are always those between the two types of apps,
so that an app of one type comes to the other along its edge, in one hop.

A value can be registered exactly if it can be called dynamically with one parameter. Then every
route registers the same; otherwise every route gives the same failure and changes nothing. A
function that runs makes the same registrations for the values that it registers. -/
theorem registry_of_history {s₀ s s' : State} {b : Builder} (hmake : Builder.make.exec s₀ = (b, s))
    {l : List Registration} (h : History s l s') :
    let r := s'.registry b.conversions
    r.Reflects (.toObject :: .toFunc :: Registration.inRegistry b.conversions l) ∧
      (∃ e₀ e₁ rest, r.edges = e₀ :: e₁ :: rest ∧ e₀.key = (.appFunc, .dynApp) ∧
        e₁.key = (.dynApp, .appFunc) ∧
        ∀ e ∈ [e₀, e₁], ∀ (v : Value) (t : Convention), v.shape = e.source → t.handle = e.target →
          ∃ out s'', (e.apply v).exec s' = (.ok out, s'') ∧ out.shape = t.handle ∧
            (convertIn b.conversions v t).exec s' = (.ok out, { s'' with
              events := s''.events ++ [.converted v.shape t 1]
              tally := s''.tally.raise (.conversion 1) 1 })) ∧
      (∀ (g : Func) (trace : String),
        State.Registers g.registrations s' ((g.effects trace).exec s').2) ∧
      ∀ (k : RegistryId) (v : Value),
        ((∃ c, Conversion.ofValue v = .ok c) ↔ ∃ r p, v = .callable r ∧ r.params = [p]) ∧
        (∀ c, Conversion.ofValue v = .ok c →
          (Assembly.register k v).exec s' = (.ok (), ((Engine.addConversion k c).exec s').2) ∧
          (Assembly.callRegister k v).exec s' =
            (.ok (.data (.registration none)), ((Engine.addConversion k c).exec s').2) ∧
          ∀ g, (s'.bag g).get? addConversionKey = some (.callable (.register k)) →
            (Session.registerByBag g v).exec s' =
              (.ok (some ()), ((Engine.addConversion k c).exec s').2)) ∧
        ∀ e, Conversion.ofValue v = .error e →
          (∃ text, e = .invalidArgument "conversion" text) ∧
          (Assembly.register k v).exec s' = (.error e, s') ∧
          (Assembly.callRegister k v).exec s' = (.ok (.data (.registration (some e))), s') ∧
          ∀ g, (s'.bag g).get? addConversionKey = some (.callable (.register k)) →
            (Session.registerByBag g v).exec s' = (.error e, s') := by
  intro r
  obtain ⟨hlt, hbuiltin⟩ := Builder.registry_of_make hmake
  have hr : r = Registry.addAll .empty
      (.toObject :: .toFunc :: Registration.inRegistry b.conversions l) := by
    have hl := h.registers.registry_eq b.conversions hlt
    rw [hbuiltin, Registry.builtin_eq_addAll, ← Registry.addAll_append] at hl
    exact hl
  have hreflects : r.Reflects _ := hr ▸ Registry.reflects_addAll_empty _
  refine ⟨hreflects, ?_, fun g trace => g.registers_effects trace s', fun k v =>
    ⟨Conversion.exists_ofValue_iff v, fun c hc => ?_, fun e he => ?_⟩⟩
  · obtain ⟨e₀, e₁, rest, hedges, he₀, he₁⟩ := hreflects.exists_builtin
    have hsound : ∀ e ∈ r.edges, e.Sound :=
      (h.registers.filled (hbuiltin ▸ Registry.builtin_filled)).sound
    refine ⟨e₀, e₁, rest, hedges, he₀, he₁, fun e he v t hv ht => ?_⟩
    obtain ⟨hfind, hshape, form, hform⟩ := directEdge?_of_builtin he₀ he₁ he hv ht
    obtain ⟨hcomponent, htype⟩ := Value.component?_of_shape hform
    have hmem : e ∈ r.edges := hedges ▸ List.mem_append_left rest he
    have hconvert :=
      convert_of_directEdge (hsound e hmem) (hedges ▸ hfind) hshape hcomponent htype s'
    rwa [convertIn, Assembly.exec_get_bind]
  · have hreg := Assembly.exec_register_ok (r := k) (s := s') hc
    refine ⟨hreg, ?_, fun g hg => ?_⟩
    · rw [Assembly.exec_callRegister, hreg]
    · rw [Assembly.exec_registerByBag hg, hreg]
      rfl
  · have hreg := Assembly.exec_register_error (r := k) (s := s') he
    refine ⟨Conversion.exists_text_of_ofValue he, hreg, ?_, fun g hg => ?_⟩
    · rw [Assembly.exec_callRegister, hreg]
    · rw [Assembly.exec_registerByBag hg, hreg]
      rfl

/-- A conversion that is registered again, by another route, keeps its place and gets a new
converter. A value that wraps a conversion is registered by no route. -/
theorem registry_of_history_overwrites :
    ∃ b s s' l, Builder.make.exec .initial = (b, s) ∧ History s l s' ∧
      (s'.registry b.conversions).edges.map Conversion.key =
        [(.appFunc, .dynApp), (.dynApp, .appFunc), (.atom (.token .a), .atom (.token .b)),
          (.atom (.token .b), .atom (.token .c))] ∧
      ∀ e ∈ (s'.registry b.conversions).edges, e.key = (.atom (.token .a), .atom (.token .b)) →
        e.routine = .func (.mk [.atom (.token .a)] (.token .b) "new" none [] []) none := by
  have hmake : Builder.make.exec .initial = (⟨0, 0, []⟩, (Builder.make.exec .initial).2) := rfl
  have hregister {l : List Registration} {s : State}
      (h : History (Builder.make.exec .initial).2 l s) (v : Value) :
      History (Builder.make.exec .initial).2 (l ++ Registration.ofValue 0 v)
        ((Command.register ⟨0, 0, []⟩ v).exec s) :=
    h.step (.register ⟨0, 0, []⟩ v) (Assembly.registers_register 0 v s) fun _ h => Option.some.inj h
  have hcall {l : List Registration} {s : State} (h : History (Builder.make.exec .initial).2 l s)
      (v : Value) :
      History (Builder.make.exec .initial).2 (l ++ Registration.ofValue 0 v)
        ((Command.callRegister 0 v).exec s) :=
    h.step (.callRegister 0 v)
      (by rw [Command.exec, Assembly.exec_callRegister]; exact Assembly.registers_register 0 v s)
      fun _ h => Option.some.inj h
  have hhistory := hcall (hregister (hcall (hregister .start
    (.callable (.func (tokenFunc .a .b) none)))
    (.callable (.func (tokenFunc .b .c) none)))
    (.data (.value (.callable (.func (tokenFunc .b .c) none)))))
    (.callable (.func (.mk [.atom (.token .a)] (.token .b) "new" none [] []) none))
  obtain ⟨hreflects, -⟩ := registry_of_history hmake hhistory
  refine ⟨_, _, _, _, hmake, hhistory, hreflects.order.trans rfl, fun e he hkey => ?_⟩
  have hlast := hreflects.last e he
  rw [hkey] at hlast
  exact congrArg Conversion.routine (Option.some.inj (hlast.symm.trans rfl))

end Pipework
