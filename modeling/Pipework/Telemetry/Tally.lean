import Pipework.Convention
import Pipework.OrderedMap
import Pipework.Stage.Kind

set_option autoImplicit false

/-!
# Counters

## Main definitions

* `Counter` — what is counted, with the name under which it is published.
* `Tally` — the counters that are not zero.
-/

namespace Pipework

/-- What is counted. -/
inductive Counter where
  /-- Conversions that took this many edges. -/
  | conversion (hops : Nat)
  | conversionFailure
  | stage (kind : StageKind)
  | build (kind : Convention.Kind)
  /-- Builds whose duration was measured. -/
  | buildDuration (kind : Convention.Kind)
  /-- Builds whose number of stages was measured. -/
  | buildStages
  /-- The numbers of stages of all builds together. -/
  | stagesBuilt
  deriving DecidableEq, Repr

/-- The name under which a counter is published. -/
def Counter.name : Counter → String
  | .conversion hops => "meridian_conversions_total\x7bhops=\"" ++ toString hops ++ "\"\x7d"
  | .conversionFailure => "meridian_conversion_failures_total"
  | .stage kind => "meridian_stages_registered_total\x7bshape=\"" ++ kind.word ++ "\"\x7d"
  | .build kind => "meridian_pipeline_builds_total\x7btarget=\"" ++ kind.name ++ "\"\x7d"
  | .buildDuration kind =>
    "meridian_pipeline_build_duration_seconds_count\x7btarget=\"" ++ kind.name ++ "\"\x7d"
  | .buildStages => "meridian_pipeline_stages_count"
  | .stagesBuilt => "meridian_pipeline_stages_sum"

/-- The values of the counters; a counter that is absent is zero. -/
abbrev Tally := OrderedMap Counter Nat

namespace Tally

/-- The value of a counter. -/
def count (t : Tally) (c : Counter) : Nat := (t.get? c).getD 0

/-- Raises a counter; raising it by zero changes nothing. -/
def raise (t : Tally) (c : Counter) (n : Nat) : Tally :=
  if n = 0 then t else OrderedMap.insert t c (t.count c + n)

/-- Raising one counter leaves all others as they are. -/
theorem count_raise (t : Tally) (c d : Counter) (n : Nat) :
    (t.raise c n).count d = t.count d + if d = c then n else 0 := by
  unfold raise
  split
  · simp_all
  · by_cases h : d = c
    · simp [count, OrderedMap.get?_insert, h]
    · simp [count, OrderedMap.get?_insert, h]

end Tally

end Pipework
