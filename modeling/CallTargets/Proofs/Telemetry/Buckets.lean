import CallTargets.Telemetry.Histogram
import Mathlib.Algebra.Ring.Nat
import Mathlib.Order.Bounds.Basic

/-!
# Buckets of a histogram

A value is placed by the number of times that the width of its bucket is 1 doubled, and by the number of such widths below
it.  `Placed` says where that is without a logarithm.  There is one place for each value, the order of places is the order of
buckets, and all that the buckets are asked for follows from the place.

* `bucket_mono`: greater values are in later buckets.
* `top_base_bucket`: the bucket is all that it takes to know its greatest value.
* `standsFor_top`: what is shown for a value.
-/

namespace CallTargets

namespace Histogram

variable {d q v v' : Nat}

/-! ### Places -/

/-- The value `v` is in the bucket after `q` buckets of the width `2 ^ d`. -/
structure Placed (d q v : Nat) : Prop where
  le : q * 2 ^ d ≤ v
  lt : v < (q + 1) * 2 ^ d
  quotient_lt : q < 2048
  le_quotient : 1 ≤ d → 1024 ≤ q

lemma width_eq (v : Nat) : width v = 2 ^ (v.log2 - 10) := rfl

/-- Beyond the buckets of width 1, the width tells the power of 2 that a value has reached. -/
lemma Placed.bounds (hv : Placed d q v) (hd : 1 ≤ d) : 2 ^ (10 + d) ≤ v ∧ v < 2 ^ (11 + d) := by
  have hlow : 1024 * 2 ^ d ≤ q * 2 ^ d := Nat.mul_le_mul_right _ (hv.le_quotient hd)
  have hhigh : (q + 1) * 2 ^ d ≤ 2048 * 2 ^ d := Nat.mul_le_mul_right _ hv.quotient_lt
  rw [Nat.pow_add, Nat.pow_add]
  exact ⟨hlow.trans hv.le, hv.lt.trans_le hhigh⟩

lemma placed_of_lt (hv : v < 2048) : Placed 0 v v := by
  refine ⟨?_, ?_, hv, by omega⟩ <;> omega

lemma placed_of_bounds (hlow : 2 ^ (10 + d) ≤ v) (hhigh : v < 2 ^ (11 + d)) :
    Placed d (v / 2 ^ d) v := by
  have hpos : 0 < 2 ^ d := Nat.two_pow_pos d
  rw [Nat.pow_add] at hlow hhigh
  refine ⟨Nat.div_mul_le_self v _, ?_, ?_, fun _ => ?_⟩
  · rw [Nat.add_mul, Nat.one_mul]
    exact Nat.lt_div_mul_add hpos
  · exact (Nat.div_lt_iff_lt_mul hpos).2 hhigh
  · exact (Nat.le_div_iff_mul_le hpos).2 hlow

/-- Every value has a place. -/
lemma exists_placed (v : Nat) : ∃ d q, Placed d q v := by
  by_cases hv : v < 2048
  · exact ⟨0, v, placed_of_lt hv⟩
  · have hne : v ≠ 0 := by omega
    have hlog : 11 ≤ v.log2 := (Nat.le_log2 hne).2 (by omega)
    refine ⟨v.log2 - 10, _, placed_of_bounds (d := v.log2 - 10) ?_ ?_⟩
    · rw [Nat.add_sub_cancel' (by omega)]
      exact Nat.log2_self_le hne
    · have hsucc : 11 + (v.log2 - 10) = v.log2 + 1 := by omega
      rw [hsucc]
      exact Nat.lt_log2_self

lemma Placed.log2_eq (hv : Placed d q v) : v.log2 - 10 = d := by
  rcases Nat.eq_zero_or_pos d with rfl | hd
  · have hlt : v < 2 ^ 11 := by
      have hlt := hv.lt
      have hq := hv.quotient_lt
      omega
    by_cases hne : v = 0
    · subst hne
      rfl
    · have hlog := (Nat.log2_lt hne).2 hlt
      omega
  · obtain ⟨hlow, hhigh⟩ := hv.bounds hd
    have hne : v ≠ 0 := by
      have hpos : 0 < 2 ^ (10 + d) := Nat.two_pow_pos _
      omega
    have hle := (Nat.le_log2 hne).2 hlow
    have hlt := (Nat.log2_lt hne).2 hhigh
    omega

lemma Placed.div_eq (hv : Placed d q v) : v / 2 ^ d = q := by
  refine (Nat.div_eq_iff (Nat.two_pow_pos d)).2 ⟨hv.le, ?_⟩
  have hlt := hv.lt
  rw [Nat.add_mul, Nat.one_mul] at hlt
  omega

/-- **The bucket of a value** is told by its place: there are 1024 buckets for each width that came before, and those of
the last width. -/
lemma Placed.bucket_eq (hv : Placed d q v) : bucket v = d * 1024 + q := by
  rw [bucket, width_eq, hv.log2_eq, hv.div_eq]

lemma Placed.top_eq (hv : Placed d q v) : top v = (q + 1) * 2 ^ d - 1 := by
  rw [top, width_eq, hv.log2_eq, hv.div_eq]

lemma Placed.base_eq (hv : Placed d q v) : base (d * 1024 + q) = q * 2 ^ d := by
  have hlt := hv.quotient_lt
  have hdoublings : (d * 1024 + q) / 1024 - 1 = d := by
    rcases Nat.eq_zero_or_pos d with rfl | hd
    · omega
    · have hle := hv.le_quotient hd
      omega
  change (d * 1024 + q - ((d * 1024 + q) / 1024 - 1) * 1024) * 2 ^ ((d * 1024 + q) / 1024 - 1) = _
  rw [hdoublings, Nat.add_sub_cancel_left]

/-- Whatever is between two values in a bucket is in that bucket. -/
lemma Placed.of_le_top (hv : Placed d q v) (hle : q * 2 ^ d ≤ v') (htop : v' ≤ top v) : Placed d q v' := by
  rw [hv.top_eq] at htop
  have hpos : 0 < (q + 1) * 2 ^ d := Nat.mul_pos q.succ_pos (Nat.two_pow_pos d)
  exact ⟨hle, by omega, hv.quotient_lt, hv.le_quotient⟩

/-! ### Greatest values -/

lemma le_top (v : Nat) : v ≤ top v := by
  obtain ⟨d, q, hv⟩ := exists_placed v
  have hlt := hv.lt
  rw [hv.top_eq]
  omega

/-- **The bucket is all that it takes** to know its greatest value. -/
lemma top_base_bucket (v : Nat) : top (base (bucket v)) = top v := by
  obtain ⟨d, q, hv⟩ := exists_placed v
  have hbase : Placed d q (q * 2 ^ d) := hv.of_le_top le_rfl (hv.le.trans (le_top v))
  rw [hv.bucket_eq, hv.base_eq, hbase.top_eq, hv.top_eq]

lemma top_mono (hle : v ≤ v') : top v ≤ top v' := by
  obtain ⟨d, q, hv⟩ := exists_placed v
  by_cases htop : v' ≤ top v
  · have hv' := hv.of_le_top (hv.le.trans hle) htop
    rw [hv.top_eq, hv'.top_eq]
  · exact (Nat.le_of_not_le htop).trans (le_top v')

/-- **Greater values are in later buckets**, or in the same one. -/
lemma bucket_mono (hle : v ≤ v') : bucket v ≤ bucket v' := by
  obtain ⟨d, q, hv⟩ := exists_placed v
  obtain ⟨d', q', hv'⟩ := exists_placed v'
  rw [hv.bucket_eq, hv'.bucket_eq]
  have hq := hv.quotient_lt
  rcases Nat.lt_trichotomy d d' with hlt | rfl | hgt
  · have hq' := hv'.le_quotient (by omega)
    omega
  · have hquot := Nat.div_le_div_right (c := 2 ^ d) hle
    rw [hv.div_eq, hv'.div_eq] at hquot
    omega
  · -- a wider bucket begins where all buckets of smaller width have ended
    have hlow := (hv.bounds (by omega)).1
    have hwidths : 2 ^ (11 + d') ≤ 2 ^ (10 + d) := Nat.pow_le_pow_right (by omega) (by omega)
    have hend : (q' + 1) * 2 ^ d' ≤ 2 ^ (11 + d') := by
      rw [Nat.pow_add]
      exact Nat.mul_le_mul_right _ hv'.quotient_lt
    have hlt := hv'.lt
    omega

/-! ### What is shown for a value -/

/-- The value `r` stands for `v`: it is `v` itself below 2048, and between `2 ^ (10 + j)` and `2 ^ (11 + j)` it is the
greatest of the values that differ from `v` in the last `j` binary digits only. -/
structure StandsFor (r v : Nat) : Prop where
  eq_of_lt : v < 2048 → r = v
  isGreatest : ∀ j, 1 ≤ j → 2 ^ (10 + j) ≤ v → v < 2 ^ (11 + j) → IsGreatest {u | u / 2 ^ j = v / 2 ^ j} r

lemma isGreatest_quotient (v j : Nat) : IsGreatest {u | u / 2 ^ j = v / 2 ^ j} ((v / 2 ^ j + 1) * 2 ^ j - 1) := by
  have hpos : 0 < 2 ^ j := Nat.two_pow_pos j
  have hsucc : (v / 2 ^ j + 1) * 2 ^ j = v / 2 ^ j * 2 ^ j + 2 ^ j := by rw [Nat.add_mul, Nat.one_mul]
  constructor
  · refine (Nat.div_eq_iff hpos).2 ⟨?_, ?_⟩
    · omega
    · omega
  · intro u hu
    have hquot : u / 2 ^ j = v / 2 ^ j := hu
    have hlt : u < u / 2 ^ j * 2 ^ j + 2 ^ j := Nat.lt_div_mul_add hpos
    rw [hquot] at hlt
    omega

lemma standsFor_top (v : Nat) : StandsFor (top v) v := by
  refine ⟨fun hlt => ?_, fun j _ hlow hhigh => ?_⟩
  · rw [(placed_of_lt hlt).top_eq, Nat.pow_zero, Nat.mul_one, Nat.add_sub_cancel]
  · rw [(placed_of_bounds hlow hhigh).top_eq]
    exact isGreatest_quotient v j

/-- What is shown exceeds the value by less than one part in 1024. -/
lemma mul_top_sub_lt (hv : 1 ≤ v) : 1024 * (top v - v) < v := by
  obtain ⟨d, q, hplaced⟩ := exists_placed v
  have hle := hplaced.le
  have htop := hplaced.top_eq
  rw [Nat.add_mul, Nat.one_mul] at htop
  rcases Nat.eq_zero_or_pos d with rfl | hd
  · omega
  · have hwidth : 1024 * 2 ^ d ≤ q * 2 ^ d := Nat.mul_le_mul_right _ (hplaced.le_quotient hd)
    omega

end Histogram

end CallTargets
