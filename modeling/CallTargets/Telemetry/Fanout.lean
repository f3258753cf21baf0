import CallTargets.Telemetry.Histogram

/-!
# Summary of fan-outs

The fan-out of a call is the number of its targets.  Over many calls, fan-outs are collected in a histogram and summarized
by the median, the 95th percentile and the maximum.
-/

namespace CallTargets

namespace Fanout

/-- The greatest fan-out that is told apart. -/
def limit : Nat := 10000000

/-- The sample that stands for a fan-out. -/
def clamp (n : Nat) : Nat := max 1 (min n limit)

/-- Fan-outs, with a bucket for each sample up to the limit. -/
abbrev Samples : Type := Histogram (Histogram.bucket limit + 1)

/-- Median, 95th percentile and maximum of fan-outs. -/
structure Summary where
  p50 : Nat
  p95 : Nat
  max : Nat
  deriving DecidableEq, Repr, Inhabited

/-- The summary of the fan-outs, if there are any; all zeros otherwise. -/
def summarize : Option Samples → Summary
  | none => ⟨0, 0, 0⟩
  | some samples =>
    if samples.isEmpty then ⟨0, 0, 0⟩
    else ⟨samples.quantile 1 2, samples.quantile 19 20, samples.maximum⟩

end Fanout

end CallTargets
