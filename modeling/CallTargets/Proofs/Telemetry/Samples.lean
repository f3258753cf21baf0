import CallTargets.Proofs.Telemetry.Buckets
import CallTargets.Proofs.Telemetry.Counting

/-!
# What a histogram holds

A histogram keeps of its samples how many there are in each bucket and in all, and the greatest one.

* `record_right_comm`: it does not keep in which order they came.
* `Holds.record` is the step and `holds_recordAll` the run: a fresh histogram holds the samples that it was given, if there
  is a bucket for each of them.
-/

namespace CallTargets

namespace Histogram

variable {size i v w : Nat} {h : Histogram size} {samples : List Nat}

/-! ### One sample -/

lemma record_of_not_accepts (hv : ¬ Accepts size v) : h.record v = h := dif_neg hv

lemma getElem_counts_record (hv : Accepts size v) (hi : i < size) :
    (h.record v).counts[i] = if bucket v = i then bump h.counts[i] else h.counts[i] := by
  rw [record, dif_pos hv]
  simp only [Vector.getElem_set]
  split
  · rename_i heq
    subst heq
    rfl
  · rfl

lemma total_record (hv : Accepts size v) : (h.record v).total = bump h.total := by
  rw [record, dif_pos hv]

lemma greatest_record (hv : Accepts size v) : (h.record v).greatest = max h.greatest v := by
  rw [record, dif_pos hv]

/-- **Two samples may change places.** -/
lemma record_right_comm (h : Histogram size) (v w : Nat) : (h.record v).record w = (h.record w).record v := by
  by_cases hv : Accepts size v
  · by_cases hw : Accepts size w
    · ext i hi
      · simp only [getElem_counts_record hv hi, getElem_counts_record hw hi]
        split <;> split <;> rfl
      · rw [total_record hw, total_record hv, total_record hv, total_record hw]
      · rw [greatest_record hw, greatest_record hv, greatest_record hv, greatest_record hw, max_right_comm]
    · rw [record_of_not_accepts hw, record_of_not_accepts hw]
  · rw [record_of_not_accepts hv, record_of_not_accepts hv]

/-! ### All samples -/

/-- Counts samples, first to last. -/
def recordAll (h : Histogram size) (samples : List Nat) : Histogram size := samples.foldl record h

/-- The histogram has counted `samples`, up to the greatest number that a counter can show. -/
structure Holds (h : Histogram size) (samples : List Nat) : Prop where
  /-- The number of samples in each bucket. -/
  counts : ∀ i (hi : i < size),
    h.counts[i] = UInt64.ofNat (min (samples.countP (bucket · == i)) (2 ^ 64 - 1))
  /-- The number of all samples. -/
  total : h.total = UInt64.ofNat (min samples.length (2 ^ 64 - 1))
  /-- No sample is greater than the greatest one. -/
  le_greatest : ∀ v ∈ samples, v ≤ h.greatest
  /-- The greatest one is a sample, unless there is none. -/
  greatest_mem : h.greatest ∈ 0 :: samples

lemma holds_nil : Holds ({} : Histogram size) [] := by
  refine ⟨fun i hi => ?_, rfl, fun v hv => absurd hv List.not_mem_nil, List.mem_cons_self⟩
  rw [Vector.getElem_replicate]
  rfl

/-- One more sample. -/
lemma Holds.record (hh : h.Holds samples) (hv : Accepts size v) : (h.record v).Holds (samples ++ [v]) := by
  refine ⟨fun i hi => ?_, ?_, fun w hw => ?_, ?_⟩
  · rw [getElem_counts_record hv hi, hh.counts i hi, Metrics.bump_ofNat, List.countP_append, List.countP_singleton]
    by_cases heq : bucket v = i
    · simp [heq]
    · simp [heq]
  · rw [total_record hv, hh.total, Metrics.bump_ofNat, List.length_append, List.length_singleton]
  · rw [greatest_record hv]
    rcases List.mem_append.1 hw with hw | hw
    · exact le_max_of_le_left (hh.le_greatest w hw)
    · rw [List.mem_singleton.1 hw]
      exact le_max_right _ _
  · rw [greatest_record hv, ← List.cons_append]
    rcases max_choice h.greatest v with hmax | hmax
    · rw [hmax]
      exact List.mem_append_left _ hh.greatest_mem
    · rw [hmax]
      exact List.mem_append_right _ (List.mem_singleton.2 rfl)

lemma Holds.recordAll {more : List Nat} (hh : h.Holds samples) (hmore : ∀ v ∈ more, Accepts size v) :
    (h.recordAll more).Holds (samples ++ more) := by
  induction more generalizing h samples with
  | nil => rwa [List.append_nil]
  | cons v more ih =>
    obtain ⟨hv, hmore⟩ := List.forall_mem_cons.1 hmore
    have hstep := ih (hh.record hv) hmore
    rwa [List.append_assoc, List.singleton_append] at hstep

/-- **A fresh histogram** holds what it is given. -/
lemma holds_recordAll (hsamples : ∀ v ∈ samples, Accepts size v) :
    (recordAll ({} : Histogram size) samples).Holds samples :=
  holds_nil.recordAll hsamples

/-! ### Counters that have not reached their end -/

lemma Holds.toNat_total (hh : h.Holds samples) (hfew : samples.length < 2 ^ 64) :
    h.total.toNat = samples.length := by
  rw [hh.total, min_eq_left (by omega), Metrics.toNat_ofNat_of_le le_rfl hfew]

lemma Holds.toNat_counts (hh : h.Holds samples) (hfew : samples.length < 2 ^ 64) (hi : i < size) :
    h.counts[i].toNat = samples.countP (bucket · == i) := by
  have hle : samples.countP (bucket · == i) ≤ samples.length := List.countP_le_length
  rw [hh.counts i hi, min_eq_left (by omega), Metrics.toNat_ofNat_of_le hle hfew]

/-- A histogram with samples is not empty, whatever their number. -/
lemma Holds.isEmpty_eq (hh : h.Holds samples) : h.isEmpty = samples.isEmpty := by
  rw [isEmpty, hh.total, Bool.eq_iff_iff, beq_iff_eq, List.isEmpty_iff, ← List.length_eq_zero_iff,
    ← UInt64.toNat_inj, UInt64.toNat_ofNat', Nat.mod_eq_of_lt (by omega)]
  change min samples.length (2 ^ 64 - 1) = 0 ↔ _
  omega

/-- The greatest of some samples, which are not zero. -/
lemma Holds.greatest_mem_samples (hh : h.Holds samples) (hpos : ∀ v ∈ samples, 1 ≤ v) (hne : samples ≠ []) :
    h.greatest ∈ samples := by
  obtain ⟨v, hv⟩ := List.exists_mem_of_ne_nil samples hne
  rcases List.mem_cons.1 hh.greatest_mem with hzero | hmem
  · have hle := hh.le_greatest v hv
    have hone := hpos v hv
    omega
  · exact hmem

end Histogram

end CallTargets
