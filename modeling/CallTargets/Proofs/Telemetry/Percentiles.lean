import CallTargets.Proofs.Telemetry.Histories
import Mathlib.Algebra.Order.Floor.Div
import Mathlib.Data.List.Sort
import Mathlib.GroupTheory.GroupAction.Ring

/-!
# Percentiles of fan-outs

A percentile is found by adding up the counts of the buckets until a rank is reached.  The sample of that rank among the
sorted samples is in the bucket where this happens, because the order of buckets is the order of values.

* `IsNthSmallest` speaks of sorted samples, and `IsNthSmallest.countP_bounds` says what this means for counts.
* `scan_eq_some` is the way through the buckets.
* `Holds.quantile_eq`: a quantile is what is shown for the sample of its rank.
* `percentiles_of_recent` is the main result.
-/

namespace CallTargets

namespace Histogram

variable {size i j k k' v v' : Nat} {h : Histogram size} {samples : List Nat}

/-! ### Ranks -/

/-- The value `v` is the `k`-th smallest of some samples, counted from 1. -/
def IsNthSmallest (samples : List Nat) (k v : Nat) : Prop :=
  1 ≤ k ∧ (samples.insertionSort (· ≤ ·))[k - 1]? = some v

lemma exists_isNthSmallest (hk : 1 ≤ k) (hle : k ≤ samples.length) : ∃ v, IsNthSmallest samples k v := by
  have hlt : k - 1 < (samples.insertionSort (· ≤ ·)).length := by
    rw [List.length_insertionSort]
    omega
  exact ⟨_, hk, List.getElem?_eq_getElem hlt⟩

lemma IsNthSmallest.mem (hv : IsNthSmallest samples k v) : v ∈ samples :=
  (List.mem_insertionSort _).1 (List.mem_of_getElem? hv.2)

/-- **Ranks are counts**: fewer than `k` samples are below the `k`-th smallest one, and at least `k` are not above it. -/
lemma IsNthSmallest.countP_bounds (hv : IsNthSmallest samples k v) :
    samples.countP (· < v) < k ∧ k ≤ samples.countP (· ≤ v) := by
  obtain ⟨hk, hget⟩ := hv
  have hperm := List.perm_insertionSort (· ≤ ·) samples
  have hsorted := List.pairwise_insertionSort (· ≤ ·) samples
  rw [← hperm.countP_eq, ← hperm.countP_eq]
  generalize samples.insertionSort (· ≤ ·) = sorted at hget hsorted
  obtain ⟨hlt, rfl⟩ := List.getElem?_eq_some_iff.1 hget
  -- the samples before the one at `k - 1` are not above it, and those from there on are not below it
  have hsplit : sorted = sorted.take (k - 1) ++ sorted[k - 1] :: sorted.drop k := by
    have hdrop := List.drop_eq_getElem_cons hlt
    rw [Nat.sub_add_cancel hk] at hdrop
    rw [← hdrop, List.take_append_drop]
  have hlength : (sorted.take (k - 1)).length = k - 1 := List.length_take_of_le hlt.le
  generalize sorted[k - 1] = v at hsplit ⊢
  rw [hsplit] at hsorted
  obtain ⟨-, hlast, hbefore⟩ := List.pairwise_append.1 hsorted
  have hnone : (v :: sorted.drop k).countP (· < v) = 0 := by
    rw [List.countP_eq_zero]
    intro w hw
    rcases List.mem_cons.1 hw with rfl | hw
    · simp
    · simpa using (List.pairwise_cons.1 hlast).1 w hw
  have hall : (sorted.take (k - 1)).countP (· ≤ v) = k - 1 := by
    rw [List.countP_eq_length.2 fun w hw => by simpa using hbefore w hw v List.mem_cons_self, hlength]
  have hfew : (sorted.take (k - 1)).countP (· < v) ≤ k - 1 :=
    List.countP_le_length.trans hlength.le
  rw [hsplit, List.countP_append, List.countP_append, hnone, hall, List.countP_cons_of_pos (by simp)]
  omega

/-- A higher rank is that of a greater sample, or of an equal one. -/
lemma IsNthSmallest.mono (hv : IsNthSmallest samples k v) (hv' : IsNthSmallest samples k' v') (hle : k ≤ k') :
    v ≤ v' := by
  by_contra hlt
  have hcount : samples.countP (· ≤ v') ≤ samples.countP (· < v) :=
    List.countP_mono_left fun w _ hw => by
      simp only [decide_eq_true_eq] at hw ⊢
      omega
  have hbelow := hv.countP_bounds.1
  have hreach := hv'.countP_bounds.2
  omega

/-- The last sample of all is the greatest one. -/
lemma IsNthSmallest.le_of_mem (hv : IsNthSmallest samples samples.length v) {w : Nat} (hw : w ∈ samples) : w ≤ v := by
  have hall : samples.countP (· ≤ v) = samples.length := le_antisymm List.countP_le_length hv.countP_bounds.2
  simpa using List.countP_eq_length.1 hall w hw

lemma rank_eq_ceilDiv {num den : Nat} (hnum : 1 ≤ num) (hden : 1 ≤ den) (hk : 1 ≤ k) :
    rank num den k = (num * k) ⌈/⌉ den := by
  have hpos : 1 ≤ num * k := Nat.mul_pos hnum hk
  have hone : 1 ≤ (num * k + (den - 1)) / den := (Nat.one_le_div_iff hden).2 (by omega)
  rw [rank, Nat.ceilDiv_eq_add_pred_div, max_eq_right hone, Nat.add_sub_assoc hden]

/-! ### The way through the buckets -/

/-- The scan ends at the first bucket where the sum of the counts reaches the rank. -/
lemma scan_eq_some {rank i seen : Nat} {ns : List UInt64} (hj : j < ns.length)
    (hbelow : seen + ((ns.take j).map UInt64.toNat).sum < rank)
    (hreach : rank ≤ seen + ((ns.take (j + 1)).map UInt64.toNat).sum) :
    scan rank i seen ns = some (i + j) := by
  induction ns generalizing i seen j with
  | nil => exact absurd hj (Nat.not_lt_zero _)
  | cons n ns ih =>
    rw [List.take_succ_cons, List.map_cons, List.sum_cons] at hreach
    rw [scan]
    cases j with
    | zero => exact if_pos hreach
    | succ j =>
      rw [List.take_succ_cons, List.map_cons, List.sum_cons] at hbelow
      rw [if_neg (by omega), ih (Nat.lt_of_succ_lt_succ hj) (by omega) (by omega)]
      congr 1
      omega

lemma countP_bucket_lt_succ (samples : List Nat) (i : Nat) :
    samples.countP (bucket · < i + 1) = samples.countP (bucket · < i) + samples.countP (bucket · == i) := by
  induction samples with
  | nil => rfl
  | cons v samples ih =>
    simp only [List.countP_cons, ih, decide_eq_true_eq, beq_iff_eq]
    split <;> split <;> split <;> omega

/-- The counts of the first buckets add up to the number of samples in them. -/
lemma Holds.sum_take_counts (hh : h.Holds samples) (hfew : samples.length < 2 ^ 64) (hi : i ≤ size) :
    ((h.counts.toList.take i).map UInt64.toNat).sum = samples.countP (bucket · < i) := by
  induction i with
  | zero => simp
  | succ i ih =>
    have hlt : i < h.counts.toList.length := by
      rw [Vector.length_toList]
      exact hi
    rw [List.take_succ_eq_append_getElem hlt, List.map_append, List.sum_append, ih (by omega), countP_bucket_lt_succ,
      ← hh.toNat_counts hfew hi]
    simp

/-- **A quantile** is what is shown for the sample of its rank. -/
lemma Holds.quantile_eq (hh : h.Holds samples) (hfew : samples.length < 2 ^ 64) {num den : Nat}
    (hv : IsNthSmallest samples (rank num den samples.length) v) (haccepts : Accepts size v) :
    h.quantile num den = top v := by
  obtain ⟨hbelow, hreach⟩ := hv.countP_bounds
  have hlower : samples.countP (bucket · < bucket v) ≤ samples.countP (· < v) :=
    List.countP_mono_left fun w _ hw => by
      simp only [decide_eq_true_eq] at hw ⊢
      exact Nat.lt_of_not_le fun hle => absurd (bucket_mono hle) (by omega)
  have hupper : samples.countP (· ≤ v) ≤ samples.countP (bucket · < bucket v + 1) :=
    List.countP_mono_left fun w _ hw => by
      simp only [decide_eq_true_eq] at hw ⊢
      exact Nat.lt_succ_of_le (bucket_mono hw)
  have hscan : scan (rank num den samples.length) 0 0 h.counts.toList = some (0 + bucket v) := by
    apply scan_eq_some
    · rw [Vector.length_toList]
      exact haccepts
    · rw [hh.sum_take_counts hfew haccepts.le]
      omega
    · rw [hh.sum_take_counts (i := bucket v + 1) hfew haccepts]
      omega
  rw [quantile, hh.toNat_total hfew, hscan]
  change top (base (0 + bucket v)) = top v
  rw [Nat.zero_add, top_base_bucket]

/-- The value `r` exceeds `v` by less than one part in 1024, if at all. -/
def Approximates (r v : Nat) : Prop := v ≤ r ∧ 1024 * (r - v) < v

lemma approximates_top (hv : 1 ≤ v) : Approximates (top v) v := ⟨le_top v, mul_top_sub_lt hv⟩

end Histogram

namespace Metrics

open Histogram

variable {readings : List Reading} {a b c : Nat}

/-- What is shown for the samples of three ranks. -/
lemma fanout_recordAll (hfew : (samplesOf readings).length < 2 ^ 64)
    (ha : IsNthSmallest (samplesOf readings) ((samplesOf readings).length ⌈/⌉ 2) a)
    (hb : IsNthSmallest (samplesOf readings) ((19 * (samplesOf readings).length) ⌈/⌉ 20) b)
    (hc : IsNthSmallest (samplesOf readings) (samplesOf readings).length c) :
    (recordAll {} readings).fanout = ⟨top a, top b, top c⟩ := by
  have hlength : 1 ≤ (samplesOf readings).length := hc.1
  have hne : samplesOf readings ≠ [] := List.ne_nil_of_length_pos hlength
  have hholds := holds_collected readings
  have hp50 : (collected readings).quantile 1 2 = top a := by
    refine hholds.quantile_eq hfew ?_ (accepts_of_mem_samplesOf ha.mem)
    rwa [rank_eq_ceilDiv le_rfl (by decide) hlength, Nat.one_mul]
  have hp95 : (collected readings).quantile 19 20 = top b := by
    refine hholds.quantile_eq hfew ?_ (accepts_of_mem_samplesOf hb.mem)
    rwa [rank_eq_ceilDiv (by decide) (by decide) hlength]
  have hmax : (collected readings).greatest = c :=
    le_antisymm (hc.le_of_mem (greatest_collected_mem hne)) (hholds.le_greatest c hc.mem)
  rw [fanout, samples?_recordAll, if_neg hne, Fanout.summarize, isEmpty_collected hne]
  change Fanout.Summary.mk _ _ (top _) = _
  rw [hp50, hp95, hmax]

/-- The fan-outs after the last reset, each no less than one and no more than ten million. -/
def recentSamples (steps : List Step) : List Nat := samplesOf (recent steps)

/-- **Percentiles are order statistics.**  If there are samples, then the summary shows the values for the samples of the
ranks `⌈k / 2⌉`, `⌈19 k / 20⌉` and `k` among all `k` of them.  So its values ascend from 1 on, and each of them approximates
its sample.  No sample is refused, so that all of them have been counted. -/
theorem percentiles_of_recent (steps : List Step) (hsome : recentSamples steps ≠ [])
    (hfew : (recentSamples steps).length < 2 ^ 40) :
    (∃ a b c,
      IsNthSmallest (recentSamples steps) ((recentSamples steps).length ⌈/⌉ 2) a ∧
      IsNthSmallest (recentSamples steps) ((19 * (recentSamples steps).length) ⌈/⌉ 20) b ∧
      (c ∈ recentSamples steps ∧ ∀ v ∈ recentSamples steps, v ≤ c) ∧
      StandsFor (after steps).snapshot.fanout.p50 a ∧ Approximates (after steps).snapshot.fanout.p50 a ∧
      StandsFor (after steps).snapshot.fanout.p95 b ∧ Approximates (after steps).snapshot.fanout.p95 b ∧
      StandsFor (after steps).snapshot.fanout.max c ∧ Approximates (after steps).snapshot.fanout.max c) ∧
    1 ≤ (after steps).snapshot.fanout.p50 ∧
    (after steps).snapshot.fanout.p50 ≤ (after steps).snapshot.fanout.p95 ∧
    (after steps).snapshot.fanout.p95 ≤ (after steps).snapshot.fanout.max ∧
    (∀ n, Accepts (bucket Fanout.limit + 1) (Fanout.clamp n)) ∧
    (after steps).samples?.map (·.total.toNat) = some (recentSamples steps).length := by
  have hlength : 1 ≤ (recentSamples steps).length := List.length_pos_of_ne_nil hsome
  have hbounds : 1 ≤ (recentSamples steps).length ⌈/⌉ 2 ∧
      (recentSamples steps).length ⌈/⌉ 2 ≤ (19 * (recentSamples steps).length) ⌈/⌉ 20 ∧
      (19 * (recentSamples steps).length) ⌈/⌉ 20 ≤ (recentSamples steps).length := by
    rw [Nat.ceilDiv_eq_add_pred_div, Nat.ceilDiv_eq_add_pred_div]
    omega
  obtain ⟨hone, hranks, hlast⟩ := hbounds
  obtain ⟨a, ha⟩ := exists_isNthSmallest hone (hranks.trans hlast)
  obtain ⟨b, hb⟩ := exists_isNthSmallest (hone.trans hranks) hlast
  obtain ⟨c, hc⟩ := exists_isNthSmallest hlength le_rfl
  have hfanout : (after steps).snapshot.fanout = ⟨top a, top b, top c⟩ := by
    rw [after_eq_recordAll]
    exact fanout_recordAll (hfew.trans (by decide)) ha hb hc
  have happrox : ∀ v ∈ recentSamples steps, Approximates (top v) v := fun v hv =>
    approximates_top (one_le_of_mem_samplesOf hv)
  rw [hfanout]
  refine ⟨⟨a, b, c, ha, hb, ⟨hc.mem, fun v hv => hc.le_of_mem hv⟩, standsFor_top a, happrox a ha.mem, standsFor_top b,
    happrox b hb.mem, standsFor_top c, happrox c hc.mem⟩, ?_, top_mono (ha.mono hb hranks),
    top_mono (hb.mono hc hlast), Fanout.accepts_clamp, ?_⟩
  · exact (one_le_of_mem_samplesOf ha.mem).trans (le_top a)
  · have hne : samplesOf (recent steps) ≠ [] := hsome
    rw [after_eq_recordAll, samples?_recordAll, if_neg hne, Option.map_some,
      (holds_collected (recent steps)).toNat_total (hfew.trans (by decide))]
    rfl

/-- Fan-outs on both sides of the limits, and one before a reset. -/
def rush : List Step :=
  [.add (.fanout "a.Job" 9), .reset, .add (.fanout "a.Job" (2 ^ 64 - 1)), .add (.fanout "a.Desk" 5000),
    .add (.fanout "a.Job" 0)]

/-- The median is shown to three digits, and so is the greatest sample. -/
theorem percentiles_rush :
    recentSamples rush ≠ [] ∧ (recentSamples rush).length < 2 ^ 40 ∧
      (after rush).snapshot.fanout.p50 = 5003 ∧ (after rush).snapshot.fanout.p95 = 10002431 ∧
      (after rush).snapshot.fanout.max = 10002431 := by
  have hsome : recentSamples rush ≠ [] := by decide
  have hfew : (recentSamples rush).length < 2 ^ 40 := by decide
  have hsamples : recentSamples rush = [10000000, 5000, 1] := by decide
  have hsorted : (recentSamples rush).insertionSort (· ≤ ·) = [1, 5000, 10000000] := by decide
  obtain ⟨⟨a, b, c, ha, hb, ⟨hmem, hle⟩, hp50, -, hp95, -, hmax, -⟩, -⟩ := percentiles_of_recent rush hsome hfew
  have hgreatest := hle 10000000 (by decide)
  rw [hsamples] at hmem
  rw [IsNthSmallest, hsorted] at ha hb
  obtain rfl : 5000 = a := Option.some.inj ha.2
  obtain rfl : 10000000 = b := Option.some.inj hb.2
  obtain rfl : 10000000 = c := by
    simp only [List.mem_cons, List.not_mem_nil, or_false] at hmem
    omega
  exact ⟨hsome, hfew, (hp50.isGreatest 2 (by decide) (by decide) (by decide)).unique (isGreatest_quotient 5000 2),
    (hp95.isGreatest 13 (by decide) (by decide) (by decide)).unique (isGreatest_quotient 10000000 13),
    (hmax.isGreatest 13 (by decide) (by decide) (by decide)).unique (isGreatest_quotient 10000000 13)⟩

end Metrics

end CallTargets
