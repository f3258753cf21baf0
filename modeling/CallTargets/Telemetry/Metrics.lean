import CallTargets.Telemetry.Fanout
import CallTargets.Telemetry.Reading

/-!
# Metrics of dispatch

Resolving a call yields readings.  A `Metrics` registry adds them up: how many calls went to an interface with no bound on
its implementors, in total and by interface, how many calls were resolved, and how their fan-outs are spread.
-/

namespace CallTargets

/-- What readings add up to. -/
structure Metrics where
  /-- The number of unbounded calls. -/
  unbounded : UInt64 := 0
  /-- The number of resolved calls. -/
  resolved : UInt64 := 0
  /-- The number of unbounded calls by interface, ascending by name. -/
  byOwner : List (ClassName × UInt64) := []
  /-- The fan-outs; the histogram is made for the first one. -/
  samples? : Option Fanout.Samples := none
  deriving DecidableEq, Repr, Inhabited

namespace Metrics

/-- Counts one more for `owner`. -/
def countOwner (owner : ClassName) : List (ClassName × UInt64) → List (ClassName × UInt64)
  | [] => [(owner, 1)]
  | (name, n) :: rest =>
    if owner < name then (owner, 1) :: (name, n) :: rest
    else if owner = name then (name, bump n) :: rest
    else (name, n) :: countOwner owner rest

/-- Adds a reading. -/
def record (m : Metrics) : Reading → Metrics
  | .anonymousUnbounded => { m with unbounded := m.unbounded + 1 }
  | .unbounded owner =>
    { m with unbounded := m.unbounded + 1, byOwner := countOwner owner m.byOwner }
  | .fanout _ targets =>
    { m with
      resolved := m.resolved + 1
      samples? := some ((m.samples?.getD {}).record (Fanout.clamp targets)) }

/-- Adds readings, first to last. -/
def recordAll (m : Metrics) (readings : List Reading) : Metrics := readings.foldl record m

/-- Forgets all readings. -/
def reset (m : Metrics) : Metrics :=
  { m with unbounded := 0, resolved := 0, byOwner := [], samples? := none }

/-- The summary of the fan-outs. -/
def fanout (m : Metrics) : Fanout.Summary := Fanout.summarize m.samples?

/-- What a registry shows. -/
structure Snapshot where
  /-- The number of unbounded calls. -/
  unbounded : UInt64
  /-- The number of resolved calls. -/
  resolved : UInt64
  /-- The summary of the fan-outs. -/
  fanout : Fanout.Summary
  /-- The number of unbounded calls by interface, ascending by name. -/
  byOwner : List (ClassName × UInt64)
  deriving DecidableEq, Repr

/-- What the registry shows now. -/
def snapshot (m : Metrics) : Snapshot := ⟨m.unbounded, m.resolved, m.fanout, m.byOwner⟩

end Metrics

end CallTargets
