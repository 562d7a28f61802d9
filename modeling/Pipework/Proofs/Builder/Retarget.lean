import Pipework.Proofs.Builder.Account

set_option autoImplicit false

/-!
# Targets of the same handle

Two conventions of the same handle agree, whatever their call signatures are. A conversion looks at
nothing but the handle of its target: whether a value satisfies the target, which operation of a
component stands for it and which edges lead to it. So a search for the one is the same computation
as a search for the other, and what follows differs in the name of the target only. In a build the
target does not come in before the last conversion, and then its kind decides under which label the
build is counted.

## Main definitions

* `ConvertsAlike` — the outcomes of bringing a value to two targets.
* `Builder.BuildsAlike` — the outcomes of building for two targets.

## Main results

* `search_congr` — searches for targets of the same handle are the same computation.
* `Builder.alike_of_handle_eq` — conversions and builds respect the equality of conventions.
-/

namespace Pipework

/-! ## Searches -/

section Congruence

variable {t u : Convention} (h : t.handle = u.handle)
include h

/-- Whether a value meets a target depends on the handle of the target alone. -/
lemma Value.satisfies_congr (v : Value) : v.satisfies t = v.satisfies u := by
  rw [satisfies, satisfies, Convention.isSatisfiedBy, Convention.isSatisfiedBy, h]

/-- So does the operation to which a component is bound. -/
lemma boundInvoke?_congr (v : Value) : boundInvoke? v t = boundInvoke? v u := by
  simp only [boundInvoke?, Convention.agrees, h]

/-- So does the edge that leads to the target at once. -/
lemma directEdge?_congr (edges : List Conversion) (v : Value) :
    directEdge? edges v t = directEdge? edges v u := by
  rw [directEdge?, directEdge?, h]

/-- So does sending a value along that edge. -/
lemma oneHop_congr (edges : List Conversion) (v : Value) : oneHop edges v t = oneHop edges v u := by
  rw [oneHop, oneHop, v.satisfies_congr h, boundInvoke?_congr h, directEdge?_congr h]

/-- The ways through the edges of `rest` are tried alike: each of them ends with a hop. -/
lemma through_congr (edges : List Conversion) (v : Value) (rest : List Conversion) :
    through edges v t rest = through edges v u rest := by
  induction rest with
  | nil => rfl
  | cons c rest ih => simp only [through, oneHop_congr h, ih]

/-- Searches for targets of the same handle are the same computation. -/
lemma search_congr (edges : List Conversion) (v : Value) : search edges v t = search edges v u := by
  rw [search, search, oneHop_congr h, through_congr h]

/-- A trail that serves one target serves the other. -/
lemma Trail.Serves.congr {edges : List Conversion} {v : Value} {w : Trail}
    (hserves : w.Serves edges v t) : w.Serves edges v u where
  subset := hserves.subset
  length_le := hserves.length_le
  plan_eq := h ▸ hserves.plan_eq

end Congruence

/-! ## Conversions -/

/-- The state after an event has been reported and a counter raised. -/
def State.noted (s : State) (e : Event) (c : Counter) : State :=
  { s with events := s.events ++ [e], tally := s.tally.raise c 1 }

/-- The outcomes of bringing a value from one state to the targets `t` and `u`. Both searches leave
the same state. Either both have followed the same trail to the same value, or neither has found a
trail, or the same converter has not taken its argument. Only what is reported, and the error when
no trail is found, has the name of the target in it. -/
inductive ConvertsAlike (edges : List Conversion) (v : Value) (t u : Convention) (s : State) :
    (x y : Except BuildError Value × State) → Prop
  | found {w : Trail} {out : Value} {s₀ s₁ : State}
      (hsearch : (search edges v t).exec s = (.ok (some (out, w.edges.length)), s₁))
      (ht : w.Serves edges v t) (hu : w.Serves edges v u)
      (hrun : (w.run v).exec s₀ = (.ok out, s₁)) :
      ConvertsAlike edges v t u s
        (.ok out, s₁.noted (.converted v.shape t w.edges.length) (.conversion w.edges.length))
        (.ok out, s₁.noted (.converted v.shape u w.edges.length) (.conversion w.edges.length))
  | notFound {s₁ : State} (hsearch : (search edges v t).exec s = (.ok none, s₁)) :
      ConvertsAlike edges v t u s
        (.error (.noConversion v.shape t), s₁.noted (.noConversion v.shape t) .conversionFailure)
        (.error (.noConversion v.shape u), s₁.noted (.noConversion v.shape u) .conversionFailure)
  | failed {e : BuildError} {s₁ : State} (hsearch : (search edges v t).exec s = (.error e, s₁))
      (hkind : e.kind = .argument) :
      ConvertsAlike edges v t u s (.error e, s₁) (.error e, s₁)

section Outcomes

variable {edges : List Conversion} {v : Value} {t : Convention} {s s₁ : State}

/-- A conversion that finds a way reports it and counts its hops. -/
lemma exec_convert_of_found {out : Value} {n : Nat}
    (hsearch : (search edges v t).exec s = (.ok (some (out, n)), s₁)) :
    (convert edges v t).exec s =
      (.ok out, s₁.noted (.converted v.shape t n) (.conversion n)) := by
  rw [convert, Assembly.exec_bind_ok hsearch]
  rfl

/-- A conversion that finds no way reports so, counts a failure and fails. -/
lemma exec_convert_of_notFound (hsearch : (search edges v t).exec s = (.ok none, s₁)) :
    (convert edges v t).exec s =
      (.error (.noConversion v.shape t),
        s₁.noted (.noConversion v.shape t) .conversionFailure) := by
  rw [convert, Assembly.exec_bind_ok hsearch]
  rfl

/-- A conversion whose search fails reports and counts nothing of its own. -/
lemma exec_convert_of_failed {e : BuildError}
    (hsearch : (search edges v t).exec s = (.error e, s₁)) :
    (convert edges v t).exec s = (.error e, s₁) := by
  rw [convert, Assembly.exec_bind_error hsearch]

end Outcomes

/-- Conversions to targets of the same handle. -/
lemma convertsAlike {t u : Convention} (h : t.handle = u.handle) (edges : List Conversion)
    (v : Value) (s : State) :
    ConvertsAlike edges v t u s ((convert edges v t).exec s) ((convert edges v u).exec s) := by
  have hcongr := search_congr h edges v
  rcases hsearch : (search edges v t).exec s with ⟨e | found, s₁⟩
  · rw [exec_convert_of_failed hsearch, exec_convert_of_failed (hcongr ▸ hsearch)]
    exact .failed hsearch (failsByArgument_search edges v t s e s₁ hsearch)
  · cases found with
    | none =>
      rw [exec_convert_of_notFound hsearch, exec_convert_of_notFound (hcongr ▸ hsearch)]
      exact .notFound hsearch
    | some found =>
      obtain ⟨out, n⟩ := found
      obtain ⟨w, s₀, hserves, hrun, rfl⟩ := exists_trail_of_search hsearch
      rw [exec_convert_of_found hsearch, exec_convert_of_found (hcongr ▸ hsearch)]
      exact .found hsearch hserves (hserves.congr h) hrun

/-! ## Builds -/

/-- The state after a build of `n` stages has been reported and counted. The kind of the target is
the label under which the build itself and the measurement of its duration are counted. -/
def State.announced (s : State) (n : Nat) (t : Convention) : State :=
  { s with
    events := s.events ++ [.built n t]
    tally := (((s.tally.raise (.build t.kind) 1).raise (.buildDuration t.kind) 1).raise
      .buildStages 1).raise .stagesBuilt n }

namespace Builder

/-- The outcomes of building from one state for the targets `t` and `u`. Either the same stage
fails, in the same way, or what the stages make cannot be brought to the targets, or it can, to the
same value, and the build is announced under the name and the kind of the target. -/
inductive BuildsAlike (b : Builder) (t u : Convention) (s : State) :
    (x y : Except BuildError Value × State) → Prop
  | stage {e : BuildError} {s₁ : State}
      (hfold : (fold b.conversions b.stages.reverse (b.terminal s)).exec s = (.error e, s₁)) :
      BuildsAlike b t u s (.error e, s₁) (.error e, s₁)
  | target {app : Value} {e e' : BuildError} {s₁ s₂ s₂' : State}
      (hfold : (fold b.conversions b.stages.reverse (b.terminal s)).exec s = (.ok app, s₁))
      (hconvert : ConvertsAlike (s₁.registry b.conversions).edges app t u s₁ (.error e, s₂)
        (.error e', s₂')) :
      BuildsAlike b t u s (.error e, s₂) (.error e', s₂')
  | built {app out : Value} {s₁ s₂ s₂' : State}
      (hfold : (fold b.conversions b.stages.reverse (b.terminal s)).exec s = (.ok app, s₁))
      (hconvert : ConvertsAlike (s₁.registry b.conversions).edges app t u s₁ (.ok out, s₂)
        (.ok out, s₂')) :
      BuildsAlike b t u s (.ok out, s₂.announced b.stages.length t)
        (.ok out, s₂'.announced b.stages.length u)

/-- Announcing what has been built changes only what is reported and counted. -/
lemma exec_announce_eq (b : Builder) (t : Convention) (app : Value) (s : State) :
    (b.announce t app).exec s = (.ok app, s.announced b.stages.length t) := rfl

/-- Builds for targets of the same handle. -/
lemma buildsAlike {t u : Convention} (h : t.handle = u.handle) (b : Builder) (s : State) :
    b.BuildsAlike t u s ((b.buildValue t).exec s) ((b.buildValue u).exec s) := by
  rcases hfold : (fold b.conversions b.stages.reverse (b.terminal s)).exec s with ⟨e | app, s₁⟩
  · rw [exec_buildValue_of_fold_error hfold, exec_buildValue_of_fold_error hfold]
    exact .stage hfold
  · have halike := convertsAlike h (s₁.registry b.conversions).edges app s₁
    generalize ht : (convert (s₁.registry b.conversions).edges app t).exec s₁ = x at halike
    generalize hu : (convert (s₁.registry b.conversions).edges app u).exec s₁ = y at halike
    cases id halike with
    | found =>
      rw [exec_buildValue_of_convert_ok hfold ht, exec_buildValue_of_convert_ok hfold hu,
        exec_announce_eq, exec_announce_eq]
      exact .built hfold halike
    | notFound =>
      rw [exec_buildValue_of_convert_error hfold ht, exec_buildValue_of_convert_error hfold hu]
      exact .target hfold halike
    | failed =>
      rw [exec_buildValue_of_convert_error hfold ht, exec_buildValue_of_convert_error hfold hu]
      exact .target hfold halike

/-- **Targets of the same handle.** If two conventions have the same handle, whatever their call
signatures, searches for them are the same computation. So a conversion to the one and a conversion
to the other follow the same trail through the same converters to the same value, or fail alike; and
from every state a builder builds the same value for both, or fails at the same step. The two differ
only in the name of the target, in the error that no conversion is available and in what is
reported, and in the kind that labels the count of the build.

**Proof sketch.** A search asks three things about its target, and each of them is about the handle
(`oneHop_congr`), so searches are equal by induction on the edges that are tried (`through_congr`).
A fold does not know the target at all, and a build is a fold with a conversion behind it. -/
theorem alike_of_handle_eq {t u : Convention} (h : t.handle = u.handle) :
    (∀ edges v, search edges v t = search edges v u) ∧
    (∀ edges v s, ConvertsAlike edges v t u s ((convert edges v t).exec s)
      ((convert edges v u).exec s)) ∧
    ∀ (b : Builder) s, b.BuildsAlike t u s ((b.buildValue t).exec s) ((b.buildValue u).exec s) :=
  ⟨search_congr h, convertsAlike h, buildsAlike h⟩

/-- A component that stands for the pipeline is built for a callable and for an object of the same
handle. -/
theorem alike_of_handle_eq_wired :
    ∃ v s₁ s₂, (Builder.buildValue ⟨0, 0, [.wired "i" 0]⟩ (.ofShape .appFunc)).exec (.fresh 1) =
        (.ok v, s₁) ∧
      (Builder.buildValue ⟨0, 0, [.wired "i" 0]⟩ (.object .appFunc)).exec (.fresh 1) = (.ok v, s₂) ∧
      s₁.events.getLast? = some (.built 1 (.ofShape .appFunc)) ∧
      s₂.events.getLast? = some (.built 1 (.object .appFunc)) := by
  have halike := (alike_of_handle_eq (t := .ofShape .appFunc) (u := .object .appFunc) rfl).2.2
    ⟨0, 0, [.wired "i" 0]⟩ (.fresh 1)
  have hok : ((Builder.buildValue ⟨0, 0, [.wired "i" 0]⟩ (.ofShape .appFunc)).exec
      (.fresh 1)).1.isOk = true := rfl
  generalize (Builder.buildValue ⟨0, 0, [.wired "i" 0]⟩ (.ofShape .appFunc)).exec (.fresh 1) = x
    at halike hok ⊢
  generalize (Builder.buildValue ⟨0, 0, [.wired "i" 0]⟩ (.object .appFunc)).exec (.fresh 1) = y
    at halike ⊢
  cases halike with
  | stage => cases hok
  | target => cases hok
  | built => exact ⟨_, _, _, rfl, rfl, List.getLast?_concat, List.getLast?_concat⟩

end Builder

end Pipework
