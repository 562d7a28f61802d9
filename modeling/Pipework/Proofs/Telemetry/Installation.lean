import Mathlib.Tactic.Common
import Pipework.Config.Basic

set_option autoImplicit false

/-!
# Installing telemetry once

A process takes one log and one metrics recorder, and what has been installed stays there. Whether a
call succeeds therefore depends on the calls before it and on nothing else: the log is refused if
its filter is none or an earlier call has installed a log, and the recorder if an earlier call has
installed one. A call for both stops at the log if that is refused; if only the recorder is refused,
the log has been installed.

## Main definitions

* `Subsystem`, `Installed.has`, `Installed.install` — the log and the recorder, and installing them.
* `Setup.Request`, `Setup.Call` — what can be asked for, and what has become of it.
* `Setup.Attempt` — what asking for one subsystem leads to.
* `Setup.Call.Follows` — a call ends as the calls before it say.

## Main results

* `Setup.attempt_logging`, `Setup.attempt_metrics` — each part asks for its subsystem.
* `Setup.has_before_iff` — what is installed has been installed by an earlier call.
* `Setup.calls_follow_history` — what becomes of every call of every run.
-/

namespace Pipework

/-! ## Subsystems -/

/-- What telemetry consists of. -/
inductive Subsystem where
  | log
  | recorder
  deriving DecidableEq

/-- The failure to install a subsystem. -/
def Subsystem.error : Subsystem → String → TelemetryError
  | log => .logging
  | recorder => .metrics

namespace Installed

/-- The beginning of a process. -/
def nothing : Installed := ⟨false, false⟩

/-- Whether a subsystem is installed. -/
def has (taken : Installed) : Subsystem → Bool
  | .log => taken.logging
  | .recorder => taken.metrics

/-- A subsystem is installed. -/
def install (taken : Installed) : Subsystem → Installed
  | .log => { taken with logging := true }
  | .recorder => { taken with metrics := true }

variable (taken : Installed) {σ τ : Subsystem}

/-- At first no subsystem is there. -/
@[simp] lemma has_nothing (σ : Subsystem) : nothing.has σ = false := by cases σ <;> rfl

/-- A subsystem that has been installed is there. -/
@[simp] lemma has_install_self : (taken.install σ).has σ = true := by cases σ <;> rfl

/-- Installing a subsystem does not install the other one. -/
lemma has_install_of_ne (h : σ ≠ τ) : (taken.install σ).has τ = taken.has τ := by
  cases σ <;> cases τ <;> first | rfl | exact absurd rfl h

end Installed

namespace Setup

/-! ## Outcomes -/

/-- The result of a computation, and what is installed after it. -/
def exec (x : Setup Unit) (taken : Installed) : Except TelemetryError Unit × Installed :=
  x.run.run taken

/-- Logs that are not enabled are not installed. -/
lemma exec_logging_of_not_enabled {c : LogConfig} (h : c.enabled = false) (taken : Installed) :
    exec (logging c) taken = (.ok (), taken) := by
  unfold logging
  rw [h]
  rfl

/-- Logs with a level that is no filter are refused. -/
lemma exec_logging_of_not_isValid {c : LogConfig} (h : c.enabled = true)
    (hfilter : Filter.isValid c.level = false) (taken : Installed) :
    exec (logging c) taken = (.error (.logging "invalid log level: "), taken) := by
  unfold logging checkFilter
  rw [h, hfilter]
  rfl

/-- Logs with a level that is a filter are installed, unless they are there. -/
lemma exec_logging_of_isValid {c : LogConfig} (h : c.enabled = true)
    (hfilter : Filter.isValid c.level = true) (taken : Installed) :
    exec (logging c) taken =
      if taken.logging then
        (.error (.logging "a global default trace dispatcher has already been set"), taken)
      else (.ok (), taken.install .log) := by
  unfold logging checkFilter
  rw [h, hfilter]
  obtain ⟨_ | _, _⟩ := taken <;> rfl

/-- Metrics are installed, unless they are there. -/
lemma exec_metrics (taken : Installed) :
    exec (metrics true) taken =
      if taken.metrics then
        (.error (.metrics ("failed to install exporter as global recorder: attempted to set a " ++
          "recorder after the metrics system was already initialized")), taken)
      else (.ok (), taken.install .recorder) := by
  obtain ⟨_, _ | _⟩ := taken <;> rfl

/-- The recorder has its turn if the log has not been refused. -/
lemma exec_telemetry (c : TelemetryConfig) (taken : Installed) :
    exec (telemetry c) taken =
      match exec (logging c.logging) taken with
      | (.ok (), between) => exec (metrics c.metrics) between
      | (.error e, between) => (.error e, between) := by
  change StateT.run
    ((logging c.logging).run >>= ExceptT.bindCont fun _ => metrics c.metrics) taken = _
  rw [StateT.run_bind]
  unfold exec
  rcases StateT.run (logging c.logging).run taken with ⟨_ | _, between⟩ <;> rfl

/-! ## Attempts -/

/-- What asking for a subsystem leads to, if it is asked for at all. It succeeds exactly if `Ready`
holds; then the subsystem was not there before and is there afterwards, and nothing else has
changed. Otherwise the failure is one to install this subsystem, and nothing has changed at all. -/
structure Attempt (σ : Subsystem) (enabled : Bool) (Ready : Prop) (before : Installed)
    (result : Except TelemetryError Unit) (after : Installed) : Prop where
  of_not_enabled : enabled = false → result = .ok () ∧ after = before
  ok_iff : enabled = true → (result = .ok () ↔ Ready)
  of_ok : enabled = true → result = .ok () → before.has σ = false ∧ after = before.install σ
  of_error : ∀ e, result = .error e → (∃ reason, e = σ.error reason) ∧ after = before

namespace Attempt

variable {σ τ : Subsystem} {enabled : Bool} {Ready Ready' : Prop} {before after : Installed}
  {result : Except TelemetryError Unit} {reason : String}

/-- A subsystem that is not enabled is passed over. -/
lemma passed : Attempt σ false Ready before (.ok ()) before :=
  ⟨fun _ => ⟨rfl, rfl⟩, nofun, nofun, nofun⟩

/-- A subsystem that is ready and not there is installed. -/
lemma installed (hready : Ready) (hfree : before.has σ = false) :
    Attempt σ true Ready before (.ok ()) (before.install σ) :=
  ⟨nofun, fun _ => iff_of_true rfl hready, fun _ _ => ⟨hfree, rfl⟩, nofun⟩

/-- A subsystem that is not ready is refused. -/
lemma refused (hready : ¬Ready) :
    Attempt σ true Ready before (.error (σ.error reason)) before := by
  refine ⟨nofun, fun _ => iff_of_false nofun hready, nofun, fun e he => ?_⟩
  cases he
  exact ⟨⟨reason, rfl⟩, rfl⟩

/-- An attempt depends on what readiness says, not on how it is said. -/
lemma congr (h : Attempt σ enabled Ready before result after) (hready : Ready ↔ Ready') :
    Attempt σ enabled Ready' before result after :=
  { h with ok_iff := fun henabled => (h.ok_iff henabled).trans hready }

/-- An attempt leaves everything as it was, or installs what was asked for. -/
lemma after_eq_or (h : Attempt σ enabled Ready before result after) :
    after = before ∨ after = before.install σ := by
  cases result with
  | error e => exact .inl (h.of_error e rfl).2
  | ok _ =>
    cases enabled with
    | false => exact .inl (h.of_not_enabled rfl).2
    | true => exact .inr (h.of_ok rfl rfl).2

/-- A subsystem that is there stays there. -/
lemma has_after (h : Attempt σ enabled Ready before result after) (hτ : before.has τ = true) :
    after.has τ = true := by
  obtain rfl | rfl := h.after_eq_or
  · exact hτ
  · by_cases hστ : σ = τ
    · rw [hστ, Installed.has_install_self]
    · rwa [Installed.has_install_of_ne _ hστ]

/-- An attempt on one subsystem leaves the other one alone. -/
lemma has_after_of_ne (h : Attempt σ enabled Ready before result after) (hστ : σ ≠ τ) :
    after.has τ = before.has τ := by
  obtain rfl | rfl := h.after_eq_or
  · rfl
  · exact before.has_install_of_ne hστ

/-- After an attempt that has not failed a subsystem is there if it was there before or was asked
for. -/
lemma has_after_of_ok (h : Attempt σ enabled Ready before (.ok ()) after) :
    after.has σ = (before.has σ || enabled) := by
  cases enabled with
  | false => rw [(h.of_not_enabled rfl).2, Bool.or_false]
  | true => rw [(h.of_ok rfl rfl).2, Installed.has_install_self, Bool.or_true]

end Attempt

/-- Setting up the logs is an attempt on them, which needs a filter and that they are not there. -/
lemma attempt_logging (c : LogConfig) (taken : Installed) :
    Attempt .log c.enabled (Filter.isValid c.level = true ∧ taken.has .log = false) taken
      (exec (logging c) taken).1 (exec (logging c) taken).2 := by
  cases henabled : c.enabled with
  | false =>
    rw [exec_logging_of_not_enabled henabled]
    exact .passed
  | true =>
    cases hfilter : Filter.isValid c.level with
    | false =>
      rw [exec_logging_of_not_isValid henabled hfilter]
      exact .refused fun hready => nomatch hready.1
    | true =>
      rw [exec_logging_of_isValid henabled hfilter]
      cases hlog : taken.logging with
      | false => exact .installed ⟨rfl, hlog⟩ hlog
      | true => exact .refused fun hready => nomatch hlog.symm.trans hready.2

/-- Setting up the metrics is an attempt on them, which needs that they are not there. -/
lemma attempt_metrics (enabled : Bool) (taken : Installed) :
    Attempt .recorder enabled (taken.has .recorder = false) taken
      (exec (metrics enabled) taken).1 (exec (metrics enabled) taken).2 := by
  cases enabled with
  | false => exact .passed
  | true =>
    rw [exec_metrics]
    cases hrecorder : taken.metrics with
    | false => exact .installed hrecorder hrecorder
    | true => exact .refused fun hready => nomatch hrecorder.symm.trans hready

/-! ## Calls -/

/-- What can be asked for. -/
inductive Request where
  | logging (c : LogConfig)
  | metrics (enabled : Bool)
  | telemetry (c : TelemetryConfig)
  /-- What the settings of a host say. -/
  | host (c : Config)

/-- Does what is asked for. -/
def Request.run : Request → Setup Unit
  | logging c => Setup.logging c
  | metrics enabled => Setup.metrics enabled
  | telemetry c => Setup.telemetry c
  | host c => Setup.telemetry c.telemetry

/-- What has been asked for and what has become of it. -/
structure Call where
  request : Request
  before : Installed
  result : Except TelemetryError Unit
  after : Installed

/-- The call for a request. -/
def Request.call (q : Request) (taken : Installed) : Call :=
  ⟨q, taken, (exec q.run taken).1, (exec q.run taken).2⟩

/-- The calls for requests that are made one after the other. -/
def calls (taken : Installed) : List Request → List Call
  | [] => []
  | q :: qs => q.call taken :: calls (q.call taken).after qs

namespace Call

/-- A call installs a subsystem. -/
def Installs (c : Call) (σ : Subsystem) : Prop := c.before.has σ = false ∧ c.after.has σ = true

instance (c : Call) (σ : Subsystem) : Decidable (c.Installs σ) :=
  inferInstanceAs (Decidable (_ ∧ _))

/-- A call asks for the log and then for the recorder. If the log is refused, that is the result,
and the recorder is not asked for. If the recorder is refused, the log is there exactly if it was
there before or was asked for. -/
structure InTurn (past : List Call) (c : Call) (logging : Bool) (level : String) (metrics : Bool) :
    Prop where
  exists_parts : ∃ result between,
    Attempt .log logging (Filter.isValid level = true ∧ ∀ d ∈ past, ¬d.Installs .log) c.before
      result between ∧
    (∀ e, result = .error e → c.result = .error e ∧ c.after = between) ∧
    (result = .ok () → Attempt .recorder metrics (∀ d ∈ past, ¬d.Installs .recorder) between
      c.result c.after)
  of_metrics_error : ∀ reason, c.result = .error (.metrics reason) →
    c.after.has .log = (c.before.has .log || logging)

/-- A call ends as the calls before it say. -/
def Follows (past : List Call) (c : Call) : Prop :=
  match c.request with
  | .logging l =>
    Attempt .log l.enabled (Filter.isValid l.level = true ∧ ∀ d ∈ past, ¬d.Installs .log) c.before
      c.result c.after
  | .metrics enabled =>
    Attempt .recorder enabled (∀ d ∈ past, ¬d.Installs .recorder) c.before c.result c.after
  | .telemetry t => c.InTurn past t.logging.enabled t.logging.level t.metrics
  | .host h => c.InTurn past h.logging.enabled h.logging.level h.metrics.enabled

end Call

/-! ## One call -/

section Step

variable {taken : Installed} {past : List Call}

/-- A call for both subsystems asks for one after the other. -/
lemma inTurn (hpast : ∀ σ, taken.has σ = false ↔ ∀ d ∈ past, ¬d.Installs σ) {q : Request}
    {c : TelemetryConfig} (hq : q.run = telemetry c) :
    (q.call taken).InTurn past c.logging.enabled c.logging.level c.metrics := by
  have hrun : exec q.run taken = _ := hq ▸ exec_telemetry c taken
  have hlog := (attempt_logging c.logging taken).congr (and_congr_right fun _ => hpast .log)
  rcases hparts : exec (logging c.logging) taken with ⟨result, between⟩
  rw [hparts] at hrun hlog
  have hresult : (q.call taken).result = _ := congrArg Prod.fst hrun
  have hafter : (q.call taken).after = _ := congrArg Prod.snd hrun
  cases result with
  | error e =>
    refine ⟨⟨_, _, hlog, fun e' he => ?_, nofun⟩, fun reason hreason => ?_⟩
    · cases he
      exact ⟨hresult, hafter⟩
    · obtain ⟨⟨reason', rfl⟩, -⟩ := hlog.of_error e rfl
      cases hresult.symm.trans hreason
  | ok _ =>
    -- the log does not touch the recorder, so that the calls before still say whether it is free
    have hsame : between.has .recorder = taken.has .recorder := hlog.has_after_of_ne (by decide)
    have hfree : between.has .recorder = false ↔ ∀ d ∈ past, ¬d.Installs .recorder := by
      rw [hsame]
      exact hpast .recorder
    have hrecorder := (attempt_metrics c.metrics between).congr hfree
    rw [← hresult, ← hafter] at hrecorder
    refine ⟨⟨_, _, hlog, nofun, fun _ => hrecorder⟩, fun reason hreason => ?_⟩
    rw [(hrecorder.of_error _ hreason).2]
    exact hlog.has_after_of_ok

/-- A call ends as the calls before it say, if they say what is installed. -/
lemma follows_call (hpast : ∀ σ, taken.has σ = false ↔ ∀ d ∈ past, ¬d.Installs σ) (q : Request) :
    (q.call taken).Follows past := by
  cases q with
  | logging c => exact (attempt_logging c taken).congr (and_congr_right fun _ => hpast .log)
  | metrics enabled => exact (attempt_metrics enabled taken).congr (hpast .recorder)
  | telemetry c => exact inTurn hpast rfl
  | host c => exact inTurn (c := c.telemetry) hpast rfl

/-- What is installed stays there. -/
lemma has_after_telemetry {σ : Subsystem} (c : TelemetryConfig) (h : taken.has σ = true) :
    (exec (telemetry c) taken).2.has σ = true := by
  have hlog := (attempt_logging c.logging taken).has_after h
  rw [exec_telemetry]
  rcases hparts : exec (logging c.logging) taken with ⟨_ | _, between⟩ <;> rw [hparts] at hlog
  · exact hlog
  · exact (attempt_metrics c.metrics between).has_after hlog

/-- A subsystem that is there before a call is there after it. -/
lemma has_after_call {σ : Subsystem} (q : Request) (h : taken.has σ = true) :
    (q.call taken).after.has σ = true := by
  cases q with
  | logging c => exact (attempt_logging c taken).has_after h
  | metrics enabled => exact (attempt_metrics enabled taken).has_after h
  | telemetry c => exact has_after_telemetry c h
  | host c => exact has_after_telemetry c.telemetry h

/-- After a call a subsystem is there if it was there before or the call has installed it. -/
lemma has_after_call_iff {σ : Subsystem} (q : Request) :
    (q.call taken).after.has σ = true ↔ taken.has σ = true ∨ (q.call taken).Installs σ := by
  constructor
  · intro hafter
    cases hbefore : taken.has σ with
    | true => exact .inl rfl
    | false => exact .inr ⟨hbefore, hafter⟩
  · rintro (h | h)
    · exact has_after_call q h
    · exact h.2

end Step

/-! ## Runs -/

section Run

variable {taken : Installed} {requests : List Request} {past rest : List Call} {c : Call}
  {σ : Subsystem}

/-- Every request is called for, in order. -/
lemma map_request_calls (taken : Installed) (requests : List Request) :
    (calls taken requests).map Call.request = requests := by
  induction requests generalizing taken with
  | nil => rfl
  | cons q qs ih => rw [calls, List.map_cons, ih]; rfl

/-- Each call is that of its request, made where it begins. -/
lemma eq_call_of_mem (h : c ∈ calls taken requests) : c = c.request.call c.before := by
  induction requests generalizing taken with
  | nil => cases h
  | cons q qs ih =>
    obtain rfl | h := List.mem_cons.1 h
    · rfl
    · exact ih h

/-- What is installed when a call is made was there at the beginning or has been installed by an
earlier call. -/
lemma has_before_iff (h : calls taken requests = past ++ c :: rest) :
    c.before.has σ = true ↔ taken.has σ = true ∨ ∃ d ∈ past, d.Installs σ := by
  -- what the first call has installed counts as there at the beginning for those after it
  induction requests generalizing taken past with
  | nil => simp [calls] at h
  | cons q qs ih =>
    cases past with
    | nil =>
      obtain ⟨rfl, -⟩ := List.cons.inj h
      simp [Request.call]
    | cons d past =>
      obtain ⟨rfl, hrest⟩ := List.cons.inj h
      simp only [ih hrest, has_after_call_iff, List.mem_cons, exists_eq_or_imp, or_assoc]

/-- What is there after a call is there before every later one. -/
lemma pairwise_calls (taken : Installed) (requests : List Request) (σ : Subsystem) :
    (calls taken requests).Pairwise fun c d => c.after.has σ = true → d.before.has σ = true := by
  induction requests generalizing taken with
  | nil => exact .nil
  | cons q qs ih =>
    refine List.pairwise_cons.2 ⟨fun d hd hafter => ?_, ih _⟩
    obtain ⟨past, rest, hsplit⟩ := List.append_of_mem hd
    exact (has_before_iff hsplit).2 (.inl hafter)

end Run

/-- **Telemetry is installed once.** Let telemetry be asked for any number of times in a process, in
any way and order. Every request has a call. A subsystem is there when a call is made exactly if an
earlier call has installed it, and the call ends as those before it say: a part that is not enabled
changes nothing and succeeds; the log is installed exactly if its filter is one and no earlier call
has installed the log, and the recorder exactly if no earlier call has installed it; otherwise the
part fails with its own kind of error and changes nothing. A call for both fails with the error of
the log without asking for the recorder; if the recorder is refused, the log is there if it was
there or was enabled. So each subsystem is installed by at most one call, and is never taken away.

**Proof sketch.** Each part leads from one set of installed subsystems to another
(`attempt_logging`, `attempt_metrics`), and what is installed is what the calls so far have
installed, by induction on the requests (`has_before_iff`). A second installation would need the
subsystem not to be there, but what is there after a call is there before every later one
(`pairwise_calls`). -/
theorem calls_follow_history (requests : List Request) :
    let run := calls .nothing requests
    run.map Call.request = requests ∧
    (∀ past c rest, run = past ++ c :: rest →
      (∀ σ, c.before.has σ = true ↔ ∃ d ∈ past, d.Installs σ) ∧ c.Follows past) ∧
    ∀ σ, (run.Pairwise fun c d => ¬(c.Installs σ ∧ d.Installs σ)) ∧
      (∀ c ∈ run, c.before.has σ = true → c.after.has σ = true) ∧
      run.Pairwise fun c d => c.after.has σ = true → d.before.has σ = true := by
  intro run
  have hpairwise := pairwise_calls .nothing requests
  refine ⟨map_request_calls _ _, fun past c rest hsplit => ?_, fun σ => ⟨?_, ?_, hpairwise σ⟩⟩
  · have hbefore (σ : Subsystem) : c.before.has σ = true ↔ ∃ d ∈ past, d.Installs σ := by
      simpa using has_before_iff (σ := σ) hsplit
    have hc : c = c.request.call c.before :=
      eq_call_of_mem (hsplit ▸ List.mem_append_right past List.mem_cons_self)
    refine ⟨hbefore, ?_⟩
    rw [hc]
    refine follows_call (fun σ => ?_) c.request
    rw [← Bool.not_eq_true, hbefore σ]
    simp only [not_exists, not_and]
  · refine (hpairwise σ).imp fun hstays => ?_
    rintro ⟨hc, hd⟩
    exact Bool.false_ne_true (hd.1.symm.trans (hstays hc.2))
  · intro c hc hbefore
    rw [eq_call_of_mem hc]
    exact has_after_call c.request hbefore

/-- The recorder has been installed, so that a call for both is refused half way: the log stays.
After it no log is installed, whether its filter is one or not, and a call that asks for nothing
succeeds. -/
theorem calls_follow_history_half_way :
    let quiet : Config :=
      { Config.standard with logging := ⟨false, "=", .json, false⟩, metrics := ⟨false⟩ }
    let requests : List Request := [.metrics true, .telemetry ⟨.standard, true⟩,
      .logging .development, .logging { LogConfig.standard with level := "info=loud" }, .host quiet]
    ∃ first second rest, calls .nothing requests = [first] ++ second :: rest ∧
      (∃ reason, second.result = .error (.metrics reason)) ∧ second.Installs .log ∧
      second.Follows [first] ∧ second.after.has .log = (second.before.has .log || true) ∧
      rest.map (fun c => (c.result.isOk, c.after)) =
        [(false, ⟨true, true⟩), (false, ⟨true, true⟩), (true, ⟨true, true⟩)] := by
  intro quiet requests
  obtain ⟨-, hsplits, -⟩ := calls_follow_history requests
  obtain ⟨-, hfollows⟩ := hsplits [_] _ _ rfl
  refine ⟨_, _, _, rfl, ⟨_, rfl⟩, ?_, hfollows, hfollows.of_metrics_error _ rfl, ?_⟩
  · decide +kernel
  · decide +kernel

end Setup

end Pipework
