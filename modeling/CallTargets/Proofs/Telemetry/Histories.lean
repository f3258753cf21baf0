import CallTargets.Proofs.Telemetry.Samples
import Mathlib.Data.List.DropRight

/-!
# Histories of a registry

Readings are added to a registry, and from time to time all of them are forgotten.  What the registry shows then depends on
the readings since it was last cleared, and not on their order: any two readings may change places.

* `Metrics.after` is the registry after a history, and `Metrics.recent` are the readings since the last reset.
* `after_eq_recordAll`: what came before the last reset leaves no trace.
* `recordAll_eq_of_perm`: the order of the readings leaves no trace either.
* `snapshot_of_recent` is the main result.
-/

namespace CallTargets

/-- The sample that a reading adds to the fan-outs: no less than one and no more than ten million. -/
def Reading.sample? : Reading → Option Nat
  | .fanout _ targets => some (max 1 (min targets 10000000))
  | .anonymousUnbounded | .unbounded _ => none

namespace Fanout

lemma one_le_clamp (n : Nat) : 1 ≤ clamp n := le_max_left _ _

lemma clamp_le_limit (n : Nat) : clamp n ≤ limit := max_le (by decide) (min_le_right _ _)

/-- There is a bucket for every fan-out. -/
lemma accepts_clamp (n : Nat) : Histogram.Accepts (Histogram.bucket limit + 1) (clamp n) :=
  Nat.lt_succ_of_le (Histogram.bucket_mono (clamp_le_limit n))

end Fanout

namespace Metrics

variable {m : Metrics} {readings : List Reading} {tallies : List (ClassName × UInt64)}
  {owner name : ClassName} {n : UInt64}

/-! ### The order of readings -/

lemma countOwner_of_lt (hlt : owner < name) :
    countOwner owner ((name, n) :: tallies) = (owner, 1) :: (name, n) :: tallies := by
  rw [countOwner, if_pos hlt]

lemma countOwner_self : countOwner name ((name, n) :: tallies) = (name, bump n) :: tallies := by
  rw [countOwner, if_neg (String.lt_irrefl name), if_pos rfl]

lemma countOwner_of_gt (hlt : name < owner) :
    countOwner owner ((name, n) :: tallies) = (name, n) :: countOwner owner tallies := by
  rw [countOwner, if_neg (not_lt_of_gt hlt), if_neg (ne_of_gt hlt)]

/-- The lower of two interfaces is counted at the same place or before the other one. -/
lemma countOwner_comm_of_lt (hlt : owner < name) (tallies : List (ClassName × UInt64)) :
    countOwner owner (countOwner name tallies) = countOwner name (countOwner owner tallies) := by
  induction tallies with
  | nil =>
    change countOwner owner [(name, 1)] = countOwner name [(owner, 1)]
    rw [countOwner_of_lt hlt, countOwner_of_gt hlt]
    rfl
  | cons tally tallies ih =>
    obtain ⟨other, n⟩ := tally
    rcases lt_trichotomy name other with hother | rfl | hother
    · rw [countOwner_of_lt hother, countOwner_of_lt hlt, countOwner_of_lt (hlt.trans hother), countOwner_of_gt hlt,
        countOwner_of_lt hother]
    · rw [countOwner_self, countOwner_of_lt hlt, countOwner_of_lt hlt, countOwner_of_gt hlt, countOwner_self]
    · rw [countOwner_of_gt hother]
      rcases lt_trichotomy owner other with howner | rfl | howner
      · rw [countOwner_of_lt howner, countOwner_of_lt howner, countOwner_of_gt hlt, countOwner_of_gt hother]
      · rw [countOwner_self, countOwner_self, countOwner_of_gt hother]
      · rw [countOwner_of_gt howner, countOwner_of_gt howner, countOwner_of_gt hother, ih]

lemma countOwner_comm (owner name : ClassName) (tallies : List (ClassName × UInt64)) :
    countOwner owner (countOwner name tallies) = countOwner name (countOwner owner tallies) := by
  rcases lt_trichotomy owner name with hlt | rfl | hlt
  · exact countOwner_comm_of_lt hlt tallies
  · rfl
  · exact (countOwner_comm_of_lt hlt tallies).symm

/-- **Two readings may change places.** -/
lemma record_right_comm (m : Metrics) (a b : Reading) : (m.record a).record b = (m.record b).record a := by
  cases a with
  | anonymousUnbounded => cases b <;> rfl
  | unbounded owner =>
    cases b with
    | unbounded name =>
      change { m with unbounded := _, byOwner := countOwner name (countOwner owner m.byOwner) } = _
      rw [countOwner_comm]
      rfl
    | _ => rfl
  | fanout owner targets =>
    cases b with
    | fanout name targets' =>
      change { m with
        resolved := _
        samples? := some (((m.samples?.getD {}).record (Fanout.clamp targets)).record (Fanout.clamp targets')) } = _
      rw [Histogram.record_right_comm]
      rfl
    | _ => rfl

/-- **The order of readings leaves no trace.** -/
lemma recordAll_eq_of_perm {others : List Reading} (hperm : others.Perm readings) (m : Metrics) :
    m.recordAll others = m.recordAll readings :=
  hperm.foldl_eq' (fun a _ b _ m => m.record_right_comm a b) m

/-! ### Histories -/

/-- What is done with a registry. -/
inductive Step where
  /-- A reading is added. -/
  | add (reading : Reading)
  /-- All readings are forgotten. -/
  | reset
  deriving DecidableEq, Repr

/-- The reading that is added. -/
def Step.reading? : Step → Option Reading
  | .add reading => some reading
  | .reset => none

/-- The registry after one step. -/
def perform (m : Metrics) : Step → Metrics
  | .add reading => m.record reading
  | .reset => m.reset

/-- A fresh registry after some steps. -/
def after (steps : List Step) : Metrics := steps.foldl perform {}

/-- The readings of the steps after the last reset. -/
def recent (steps : List Step) : List Reading := (steps.rtakeWhile (· ≠ .reset)).filterMap Step.reading?

lemma recent_concat_add (steps : List Step) (reading : Reading) :
    recent (steps ++ [.add reading]) = recent steps ++ [reading] := by
  rw [recent, List.rtakeWhile_concat_pos _ _ _ (by simp), List.filterMap_append]
  rfl

lemma recent_concat_reset (steps : List Step) : recent (steps ++ [.reset]) = [] := by
  rw [recent, List.rtakeWhile_concat_neg _ _ _ (by simp)]
  rfl

/-- **What came before the last reset leaves no trace.** -/
lemma after_eq_recordAll (steps : List Step) : after steps = recordAll {} (recent steps) := by
  induction steps using List.reverseRecOn with
  | nil => rfl
  | append_singleton steps step ih =>
    rw [after, List.foldl_append]
    change (after steps).perform step = _
    cases step with
    | add reading =>
      rw [ih, recent_concat_add, recordAll, recordAll, List.foldl_append]
      rfl
    | reset =>
      rw [recent_concat_reset]
      rfl

lemma length_recent_le (steps : List Step) : (recent steps).length ≤ steps.length :=
  (List.length_filterMap_le _ _).trans (List.rtakeWhile_suffix _ _).length_le

/-! ### Counts by interface -/

lemma toNat_bump_le (n : UInt64) : (bump n).toNat ≤ n.toNat + 1 := by
  rw [bump]
  split
  · omega
  · rw [UInt64.toNat_add]
    exact Nat.mod_le _ _

lemma sum_countOwner_le (owner : ClassName) (tallies : List (ClassName × UInt64)) :
    ((countOwner owner tallies).map (·.2.toNat)).sum ≤ (tallies.map (·.2.toNat)).sum + 1 := by
  induction tallies with
  | nil => exact le_rfl
  | cons tally tallies ih =>
    obtain ⟨name, n⟩ := tally
    have hbump := toNat_bump_le n
    rw [countOwner]
    split
    · rw [List.map_cons, List.sum_cons, Nat.add_comm]
      exact le_rfl
    · split
      · simp only [List.map_cons, List.sum_cons]
        omega
      · simp only [List.map_cons, List.sum_cons]
        omega

/-- Unbounded calls that are counted by interface are counted in total, too. -/
lemma sum_byOwner_recordAll_le (m : Metrics) (readings : List Reading) :
    ((m.recordAll readings).byOwner.map (·.2.toNat)).sum ≤
      (m.byOwner.map (·.2.toNat)).sum + readings.countP Sinks.isUnbounded := by
  induction readings generalizing m with
  | nil => exact le_rfl
  | cons reading readings ih =>
    have hstep := ih (m.record reading)
    change ((m.recordAll (reading :: readings)).byOwner.map (·.2.toNat)).sum ≤ _ at hstep
    cases reading with
    | anonymousUnbounded =>
      change _ ≤ (m.byOwner.map (·.2.toNat)).sum + _ at hstep
      rw [List.countP_cons_of_pos rfl]
      omega
    | unbounded owner =>
      have hcount := sum_countOwner_le owner m.byOwner
      change _ ≤ ((countOwner owner m.byOwner).map (·.2.toNat)).sum + _ at hstep
      rw [List.countP_cons_of_pos rfl]
      omega
    | fanout owner targets =>
      rw [List.countP_cons_of_neg (by simp [Sinks.isUnbounded])]
      exact hstep

/-! ### Fan-outs -/

/-- The samples of some readings. -/
def samplesOf (readings : List Reading) : List Nat := readings.filterMap Reading.sample?

lemma exists_clamp_of_mem_samplesOf {v : Nat} (hv : v ∈ samplesOf readings) : ∃ n, v = Fanout.clamp n := by
  obtain ⟨reading, -, hsample⟩ := List.mem_filterMap.1 hv
  cases reading with
  | fanout owner targets => exact ⟨targets, (Option.some.inj hsample).symm⟩
  | _ => cases hsample

lemma one_le_of_mem_samplesOf {v : Nat} (hv : v ∈ samplesOf readings) : 1 ≤ v := by
  obtain ⟨n, rfl⟩ := exists_clamp_of_mem_samplesOf hv
  exact Fanout.one_le_clamp n

lemma accepts_of_mem_samplesOf {v : Nat} (hv : v ∈ samplesOf readings) :
    Histogram.Accepts (Histogram.bucket Fanout.limit + 1) v := by
  obtain ⟨n, rfl⟩ := exists_clamp_of_mem_samplesOf hv
  exact Fanout.accepts_clamp n

lemma samplesOf_eq_nil_iff : samplesOf readings = [] ↔ readings.countP Reading.isFanout = 0 := by
  rw [samplesOf, List.filterMap_eq_nil_iff, List.countP_eq_zero]
  refine forall₂_congr fun reading _ => ?_
  cases reading <;> simp [Reading.sample?, Reading.isFanout]

lemma samplesOf_concat_of_some {reading : Reading} {v : Nat} (hsample : reading.sample? = some v) :
    samplesOf (readings ++ [reading]) = samplesOf readings ++ [v] := by
  rw [samplesOf, List.filterMap_append, List.filterMap_cons_some hsample]
  rfl

lemma samplesOf_concat_of_none {reading : Reading} (hsample : reading.sample? = none) :
    samplesOf (readings ++ [reading]) = samplesOf readings := by
  rw [samplesOf, List.filterMap_append, List.filterMap_cons_none hsample]
  exact List.append_nil _

/-- The histogram of the samples of some readings. -/
def collected (readings : List Reading) : Fanout.Samples := Histogram.recordAll {} (samplesOf readings)

/-- The histogram is made for the first fan-out. -/
lemma samples?_recordAll (readings : List Reading) :
    (recordAll {} readings).samples? = if samplesOf readings = [] then none else some (collected readings) := by
  induction readings using List.reverseRecOn with
  | nil => rfl
  | append_singleton readings reading ih =>
    have hstep : recordAll {} (readings ++ [reading]) = (recordAll {} readings).record reading := by
      rw [recordAll, List.foldl_append]
      rfl
    rw [hstep]
    cases reading with
    | fanout owner targets =>
      rw [collected, samplesOf_concat_of_some rfl, if_neg (by simp), Histogram.recordAll, List.foldl_append]
      change some (((recordAll {} readings).samples?.getD {}).record (Fanout.clamp targets)) = _
      rw [ih]
      split
      · rename_i hnil
        rw [hnil]
        rfl
      · rfl
    | _ =>
      rw [collected, samplesOf_concat_of_none rfl]
      exact ih

/-- The fan-outs are all there, since none of them is refused. -/
lemma holds_collected (readings : List Reading) : (collected readings).Holds (samplesOf readings) :=
  Histogram.holds_recordAll fun _ hv => accepts_of_mem_samplesOf hv

lemma isEmpty_collected (hne : samplesOf readings ≠ []) : (collected readings).isEmpty = false := by
  rw [(holds_collected readings).isEmpty_eq, List.isEmpty_eq_false_iff]
  exact hne

lemma greatest_collected_mem (hne : samplesOf readings ≠ []) : (collected readings).greatest ∈ samplesOf readings :=
  (holds_collected readings).greatest_mem_samples (fun _ hv => one_le_of_mem_samplesOf hv) hne

lemma fanout_eq_zero_iff (readings : List Reading) :
    (recordAll {} readings).fanout = ⟨0, 0, 0⟩ ↔ readings.countP Reading.isFanout = 0 := by
  rw [← samplesOf_eq_nil_iff, fanout, samples?_recordAll]
  by_cases hnil : samplesOf readings = []
  · simp [hnil, Fanout.summarize]
  · rw [if_neg hnil, Fanout.summarize, isEmpty_collected hnil, iff_false_right hnil]
    intro hzero
    -- the greatest sample is not zero, and neither is what is shown for it
    have hpos := (one_le_of_mem_samplesOf (greatest_collected_mem hnil)).trans (Histogram.le_top _)
    have hmax := congrArg Fanout.Summary.max hzero
    change Histogram.top _ = 0 at hmax
    omega

/-! ### The main result -/

/-- **What a registry shows** after fewer than `2 ^ 64` steps is told by the readings since the last reset, and their order
is of no account.  It shows the number of unbounded calls, the number of those on each interface, where an interface without
any is left out and all others together have no more than the total, and the number of fan-outs.  Their summary is all zeros
only if there is none. -/
theorem snapshot_of_recent (steps : List Step) (hfew : steps.length < 2 ^ 64) :
    (∀ readings : List Reading, readings.Perm (recent steps) →
      (recordAll {} readings).snapshot = (after steps).snapshot) ∧
    (after steps).snapshot.unbounded.toNat = (recent steps).countP Sinks.isUnbounded ∧
    ((after steps).snapshot.byOwner.Pairwise fun p q => p.1 < q.1) ∧
    (∀ owner, ((after steps).snapshot.byOwner.lookup owner).map UInt64.toNat =
      if (recent steps).count (.unbounded owner) = 0 then none
      else some ((recent steps).count (.unbounded owner))) ∧
    ((after steps).snapshot.byOwner.map (·.2.toNat)).sum ≤ (after steps).snapshot.unbounded.toNat ∧
    (after steps).snapshot.resolved.toNat = (recent steps).countP Reading.isFanout ∧
    ((after steps).snapshot.fanout = ⟨0, 0, 0⟩ ↔ (recent steps).countP Reading.isFanout = 0) := by
  have hlength : (recent steps).length < 2 ^ 64 := (length_recent_le steps).trans_lt hfew
  rw [after_eq_recordAll]
  have hsums := addsUp_recordAll (recent steps)
  have hunbounded : (recordAll {} (recent steps)).unbounded.toNat = (recent steps).countP Sinks.isUnbounded := by
    rw [hsums.unbounded]
    exact toNat_ofNat_of_le List.countP_le_length hlength
  refine ⟨fun readings hperm => ?_, hunbounded, hsums.ascending, fun owner => ?_, ?_, ?_,
    fanout_eq_zero_iff (recent steps)⟩
  · rw [recordAll_eq_of_perm hperm]
  · change ((recordAll {} (recent steps)).byOwner.lookup owner).map UInt64.toNat = _
    rw [hsums.byOwner]
    exact map_toNat_shown List.count_le_length hlength
  · change ((recordAll {} (recent steps)).byOwner.map (·.2.toNat)).sum ≤ (recordAll {} (recent steps)).unbounded.toNat
    rw [hunbounded]
    simpa using sum_byOwner_recordAll_le {} (recent steps)
  · change (recordAll {} (recent steps)).resolved.toNat = _
    rw [hsums.resolved]
    exact toNat_ofNat_of_le List.countP_le_length hlength

/-- A reset between readings of all kinds. -/
def shift : List Step :=
  [.add (.unbounded "a.Desk"), .add (.fanout "a.Desk" 7), .reset, .add (.unbounded "a.Job"),
    .add .anonymousUnbounded, .add (.fanout "a.Job" 0), .add (.unbounded "a.Job")]

/-- The readings after the reset, in another order. -/
def shuffled : List Reading :=
  [.unbounded "a.Job", .unbounded "a.Job", .fanout "a.Job" 0, .anonymousUnbounded]

/-- After the shift only the readings since the reset are shown. -/
theorem snapshot_shift :
    shift.length < 2 ^ 64 ∧ shuffled.Perm (recent shift) ∧
      (recordAll {} shuffled).snapshot = (after shift).snapshot ∧
      (after shift).snapshot.unbounded.toNat = 3 ∧
      ((after shift).snapshot.byOwner.lookup "a.Job").map UInt64.toNat = some 2 ∧
      ((after shift).snapshot.byOwner.lookup "a.Desk").map UInt64.toNat = none ∧
      (after shift).snapshot.resolved.toNat = 1 ∧ (after shift).snapshot.fanout ≠ ⟨0, 0, 0⟩ := by
  have hfew : shift.length < 2 ^ 64 := by decide
  have hperm : shuffled.Perm (recent shift) := by decide
  obtain ⟨horder, hunbounded, -, howner, -, hresolved, hzero⟩ := snapshot_of_recent shift hfew
  refine ⟨hfew, hperm, horder shuffled hperm, hunbounded.trans ?_, (howner "a.Job").trans ?_,
    (howner "a.Desk").trans ?_, hresolved.trans ?_, fun hfanout => ?_⟩
  · decide
  · decide
  · decide
  · decide
  · exact absurd (hzero.1 hfanout) (by decide)

end Metrics

end CallTargets
