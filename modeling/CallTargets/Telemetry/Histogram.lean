/-!
# Histograms

A histogram counts samples by bucket, so that its size does not depend on their number.  Buckets keep three significant
digits: they have the width 1 below 2048, the width 2 between 2048 and 4095, 4 up to 8191, and so on.  So there are 2048
buckets of width 1, followed by 1024 buckets of each greater width.

What is read off a histogram is the greatest value of some bucket.
-/

namespace CallTargets

/-- One more, but not beyond the greatest number. -/
def bump (n : UInt64) : UInt64 := if n + 1 = 0 then n else n + 1

/-- Samples counted in `size` buckets. -/
@[ext]
structure Histogram (size : Nat) where
  /-- The number of samples in each bucket. -/
  counts : Vector UInt64 size := .replicate size 0
  /-- The number of all samples. -/
  total : UInt64 := 0
  /-- The greatest sample. -/
  greatest : Nat := 0
  deriving DecidableEq, Repr, Inhabited

namespace Histogram

variable {size : Nat}

/-! ### Buckets -/

/-- The width of the bucket of a value. -/
def width (v : Nat) : Nat := Nat.pow 2 (v.log2 - 10)

/-- The bucket of a value, counted from 0. -/
def bucket (v : Nat) : Nat := (v.log2 - 10) * 1024 + v / width v

/-- The least value of a bucket. -/
def base (i : Nat) : Nat :=
  let doublings := i / 1024 - 1
  (i - doublings * 1024) * Nat.pow 2 doublings

/-- The greatest value in the bucket of a value. -/
def top (v : Nat) : Nat := (v / width v + 1) * width v - 1

/-! ### Recording -/

/-- One of `size` buckets is that of the value. -/
abbrev Accepts (size v : Nat) : Prop := bucket v < size

/-- Counts a sample; one that has no bucket is refused. -/
def record (h : Histogram size) (v : Nat) : Histogram size :=
  if hv : Accepts size v then
    { counts := h.counts.set (bucket v) (bump h.counts[bucket v])
      total := bump h.total
      greatest := max h.greatest v }
  else h

/-! ### Reading -/

/-- Whether no sample has been counted. -/
def isEmpty (h : Histogram size) : Bool := h.total == 0

/-- The rank of the quantile `num / den` among `count` samples, counted from 1. -/
def rank (num den count : Nat) : Nat := max 1 ((num * count + (den - 1)) / den)

/-- The first bucket up to which `rank` samples have been counted, where the counts are those from the bucket `i` on
and the buckets below have `seen` samples. -/
def scan (rank : Nat) : (i seen : Nat) → List UInt64 → Option Nat
  | _, _, [] => none
  | i, seen, n :: rest =>
    if rank ≤ seen + n.toNat then some i else scan rank (i + 1) (seen + n.toNat) rest

/-- The value for the quantile `num / den`. -/
def quantile (h : Histogram size) (num den : Nat) : Nat :=
  match scan (rank num den h.total.toNat) 0 0 h.counts.toList with
  | some i => top (base i)
  | none => 0

/-- The value for the greatest sample. -/
def maximum (h : Histogram size) : Nat := top h.greatest

end Histogram

end CallTargets
