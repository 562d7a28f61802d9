import Pipework.Proofs.Engine.Passes
import Pipework.Proofs.Engine.Registers

set_option autoImplicit false

/-!
# Relations that computations stay within

Some facts about a computation relate the state that it starts from and the state that it leaves,
and pass through sequences because the relation is reflexive and transitive. Such a relation has to
be looked at only where a call does something on the side.

## Main definitions

* `Engine.Within`, `Assembly.Within` — a computation whose states are related.
* `State.Sequential`, `State.CallRelation` — the relations that sequences, and everything which a
  call does on the side, stay within.
* `State.FunctionWrites` — property bags and registries change only by functions that run.

## Main results

* `State.Sequential.passes`, `State.CallRelation.passes` — sequences and calls stay within.
* `Builder.within_buildApp` — so do builds.
* `State.callRelation_tally`, `State.callRelation_functionWrites` — calls count nothing, and change
  bags and registries only by functions.
* `State.FunctionWrites.exists_calls` — these functions are in the call log.
-/

namespace Pipework

variable {α β : Type} {ρ : State → State → Prop}

/-- From whichever state a computation starts, the state that it leaves is related to that one. -/
def Engine.Within (ρ : State → State → Prop) (x : Engine α) : Prop := ∀ s, ρ s (x.exec s).2

/-- The same for a computation that may fail. -/
def Assembly.Within (ρ : State → State → Prop) (x : Assembly α) : Prop := ∀ s, ρ s (x.exec s).2

/-- A relation between states that passes through sequences of computations. -/
structure State.Sequential (ρ : State → State → Prop) : Prop where
  refl : ∀ s, ρ s s
  trans : ∀ {s s₁ s'}, ρ s s₁ → ρ s₁ s' → ρ s s'

/-- A relation between states that everything which a call does on the side stays within. -/
structure State.CallRelation (ρ : State → State → Prop) : Prop extends State.Sequential ρ where
  effects : ∀ (f : Func) (trace : String), (f.effects trace).Within ρ
  register : ∀ (r : RegistryId) (v : Value), (Assembly.register r v).Within ρ
  logCall : ∀ line : String, (Engine.logCall line).Within ρ
  newCell : ∀ entries : List Held, (Engine.newCell entries).Within ρ
  setCell : ∀ (c : CellId) (entries : List Held), (Engine.setCell c entries).Within ρ

/-- Sequences stay within the relation. -/
lemma State.Sequential.passes (hρ : State.Sequential ρ) :
    Engine.Passes fun _ x => Engine.Within ρ x where
  pure _ := hρ.refl
  bind hx hf s := hρ.trans (hx s) (hf _ _)

/-- Evaluations stay within if making components does. -/
lemma State.Sequential.passesEval (hρ : State.Sequential ρ)
    (hnew : ∀ entries : List Held, (Engine.newCell entries).Within ρ) :
    Engine.PassesEval fun _ x => Engine.Within ρ x where
  __ := hρ.passes
  observe _ h s := h s s
  newCell := hnew

/-- Calls stay within the relation. -/
lemma State.CallRelation.passes (hρ : State.CallRelation ρ) :
    Engine.PassesCalls fun _ x => Engine.Within ρ x where
  __ := hρ.passesEval hρ.newCell
  effects := hρ.effects
  register := hρ.register
  logCall := hρ.logCall
  setCell := hρ.setCell

/-! ## Builds -/

section Build

variable (hρ : State.CallRelation ρ) (hreport : ∀ e : Event, (Engine.report e).Within ρ)
  (hraise : ∀ (c : Counter) (n : Nat), (Engine.raise c n).Within ρ)
include hρ hreport hraise

/-- Conversions stay within what their calls, their reports and their counters stay within. -/
lemma within_convertIn (r : RegistryId) (v : Value) (t : Convention) : (convertIn r v t).Within ρ :=
  fun s => passes_convert hρ.1.passes hreport hraise
    (fun c _ v => c.routine.passes_invoke hρ.passes [v]) v t s

namespace Builder

/-- So do builds. -/
lemma within_buildValue (b : Builder) (t : Convention) : (b.buildValue t).Within ρ := fun s =>
  passes_assemble hρ.1.passes hreport hraise (within_convertIn hρ hreport hraise b.conversions)
    (fun st v => st.passes_apply hρ.passes v) b.stages t (b.terminal s) s

/-- So do builds of values of a type. -/
lemma within_build (b : Builder) (type : Shape) : (b.build type).Within ρ :=
  passes_build hρ.1.passes (b.within_buildValue hρ hreport hraise _)

/-- A build stays within what its calls, its reports and its counters stay within. -/
lemma within_buildApp (b : Builder) : b.buildApp.Within ρ :=
  passes_buildApp hρ.1.passes (b.within_build hρ hreport hraise _)

end Builder

end Build

/-! ## Counters -/

/-- Everything that a call does on the side leaves the counters alone. -/
lemma State.callRelation_tally : State.CallRelation fun s s' => s'.tally = s.tally := by
  have hseq : State.Sequential fun s s' => s'.tally = s.tally :=
    ⟨fun _ => rfl, fun h h' => h'.trans h⟩
  have hnew (entries : List Held) :
      (Engine.newCell entries).Within fun s s' => s'.tally = s.tally := fun _ => rfl
  refine ⟨hseq, fun f trace => ?_, fun r v s => ?_, fun _ _ => rfl, hnew, fun _ _ _ => rfl⟩
  · unfold Func.effects
    refine hseq.passes.bind (fun _ => rfl) fun _ => hseq.passes.bind
      (hseq.passes.forM _ fun g => ?_) fun _ => hseq.passes.forM _ fun w =>
        hseq.passes.bind (w.2.passes_eval (hseq.passesEval hnew)) fun _ _ => rfl
    split
    · exact fun _ => rfl
    · exact hseq.passes.pure _
  · cases hc : Conversion.ofValue v with
    | ok c =>
      rw [Assembly.exec_register_ok hc]
      rfl
    | error e => rw [Assembly.exec_register_error hc]

/-! ## Property bags and registries -/

/-- The property bags and registries of the second state are those of the first one with what
functions that ran have written and registered: functions of the program, which leave the lines
`ran` in the call log, and callables that register conversions. -/
inductive State.FunctionWrites : (ran : List String) → State → State → Prop
  | still {s s' : State} (hbags : s'.bags = s.bags) (hregistries : s'.registries = s.registries)
      (hcalls : s.calls <+: s'.calls) : FunctionWrites [] s s'
  | function (f : Func) (trace : String) (s : State) :
      FunctionWrites [trace] s ((f.effects trace).exec s).2
  | registrar (r : RegistryId) (v : Value) (s : State) :
      FunctionWrites [] s ((Assembly.register r v).exec s).2
  | trans {ran ran' : List String} {s s₁ s' : State} (h : FunctionWrites ran s s₁)
      (h' : FunctionWrites ran' s₁ s') : FunctionWrites (ran ++ ran') s s'

/-- A call changes bags and registries only by the functions that it runs. -/
lemma State.callRelation_functionWrites :
    State.CallRelation fun s s' => ∃ ran, State.FunctionWrites ran s s' where
  refl _ := ⟨[], .still rfl rfl List.prefix_rfl⟩
  trans := fun ⟨_, h⟩ ⟨_, h'⟩ => ⟨_, h.trans h'⟩
  effects f trace s := ⟨_, .function f trace s⟩
  register r v s := ⟨_, .registrar r v s⟩
  logCall _ _ := ⟨_, .still rfl rfl (List.prefix_append _ _)⟩
  newCell _ _ := ⟨_, .still rfl rfl List.prefix_rfl⟩
  setCell _ _ _ := ⟨_, .still rfl rfl List.prefix_rfl⟩

/-- Registering a value adds no line to the call log. -/
lemma Assembly.calls_register (r : RegistryId) (v : Value) :
    (Assembly.register r v).Within fun s s' => s'.calls = s.calls := by
  intro s
  cases hc : Conversion.ofValue v with
  | ok c =>
    rw [Assembly.exec_register_ok hc]
    rfl
  | error e => rw [Assembly.exec_register_error hc]

/-- A function that runs adds its line to the call log, and no other one. -/
lemma Func.calls_effects (f : Func) (trace : String) (s : State) :
    ((f.effects trace).exec s).2.calls = s.calls ++ [trace] := by
  have hseq : State.Sequential fun s s' => s'.calls = s.calls :=
    ⟨fun _ => rfl, fun h h' => h'.trans h⟩
  unfold Func.effects
  rw [Engine.exec_bind, Engine.exec_logCall]
  -- what comes after the line leaves the call log alone
  refine (?_ : Engine.Within (fun s s' => s'.calls = s.calls) _) { s with calls := _ }
  refine hseq.passes.bind (hseq.passes.forM _ fun g => ?_) fun _ => hseq.passes.forM _ fun w =>
    hseq.passes.bind (w.2.passes_eval (hseq.passesEval fun _ _ => rfl)) fun _ _ => rfl
  cases Conversion.ofRoutine (.func g none) with
  | ok c => exact fun _ => rfl
  | error e => exact hseq.passes.pure _

/-- All functions that ran are in the call log, in order. -/
lemma State.FunctionWrites.exists_calls {ran : List String} {s s' : State}
    (h : State.FunctionWrites ran s s') :
    ∃ lines, s'.calls = s.calls ++ lines ∧ ran.Sublist lines := by
  induction h with
  | still _ _ hcalls =>
    obtain ⟨lines, hlines⟩ := hcalls
    exact ⟨lines, hlines.symm, List.nil_sublist _⟩
  | function f trace s => exact ⟨[trace], f.calls_effects trace s, List.Sublist.refl _⟩
  | registrar r v s =>
    exact ⟨[], by rw [List.append_nil, Assembly.calls_register r v s], List.Sublist.refl _⟩
  | trans _ _ ih ih' =>
    obtain ⟨lines, hlines, hsub⟩ := ih
    obtain ⟨lines', hlines', hsub'⟩ := ih'
    exact ⟨lines ++ lines', by rw [hlines', hlines, List.append_assoc], hsub.append hsub'⟩

end Pipework
