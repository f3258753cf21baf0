/-!
# Digits and decimal numbers

Reading digits, and the numbers `mantissa · 10 ^ exponent` that decimal notation denotes.

Two rules say whether such a number is beyond the range of double-precision numbers.  By `Decimal.overflows` it is, if
rounding it to the nearest of them gives infinity.  By `Decimal.estimateOverflows` it is, if computing it with them does:
the leading digits that fit into a machine word, times a power of ten.  The two differ only next to the greatest of
these numbers, where each rounding of the computation counts.
-/

namespace CallTargets

/-- The value of a digit in any base up to 16. -/
def digitValue? (c : Char) : Option Nat :=
  if '0' ≤ c ∧ c ≤ '9' then some (c.toNat - '0'.toNat)
  else if 'a' ≤ c ∧ c ≤ 'f' then some (c.toNat - 'a'.toNat + 10)
  else if 'A' ≤ c ∧ c ≤ 'F' then some (c.toNat - 'A'.toNat + 10)
  else none

/-- Whether a character is a digit of a base up to 16. -/
def isDigitOf (base : Nat) (c : Char) : Bool :=
  match digitValue? c with
  | some v => v < base
  | none => false

/-- The number that digits denote in a base. -/
def ofDigits (base : Nat) (digits : List Char) : Nat :=
  digits.foldl (fun n c => n * base + (digitValue? c).getD 0) 0

theorem ofDigits_append_singleton (base : Nat) (ds : List Char) (c : Char) :
    ofDigits base (ds ++ [c]) = ofDigits base ds * base + (digitValue? c).getD 0 := by
  simp [ofDigits]

/-- The number `mantissa · 10 ^ exponent`. -/
structure Decimal where
  mantissa : Nat
  exponent : Int
  deriving DecidableEq, Repr, Inhabited

namespace Decimal

/-- The least number that rounds to infinity: half a unit above the greatest double-precision number. -/
def overflowThreshold : Nat := Nat.pow 2 1024 - Nat.pow 2 970

/-- The number of digits before the decimal point, if there are any. -/
def magnitude (d : Decimal) : Int := (Nat.toDigits 10 d.mantissa).length + d.exponent

/-- Whether the number rounds to infinity.  The magnitude decides all but the closest cases, so that no great power
of ten is ever formed. -/
def overflows (d : Decimal) : Bool :=
  if d.mantissa = 0 then false
  else if d.magnitude < 309 then false
  else if 309 < d.magnitude then true
  else if 0 ≤ d.exponent then decide (overflowThreshold ≤ d.mantissa * Nat.pow 10 d.exponent.toNat)
  else decide (overflowThreshold * Nat.pow 10 (-d.exponent).toNat ≤ d.mantissa)

/-- Rounds a number to so many binary digits; a half goes to the even neighbour. -/
def roundBits (bits n : Nat) : Nat :=
  let unit := Nat.pow 2 (n.log2 + 1 - bits)
  let quotient := n / unit
  let twice := 2 * (n % unit)
  if twice < unit then quotient * unit
  else if unit < twice then (quotient + 1) * unit
  else (quotient + quotient % 2) * unit

/-- The number with so many of its last digits dropped that the mantissa is at most `greatest`. -/
def shorten (greatest : Nat) (d : Decimal) : Decimal :=
  if greatest < d.mantissa then shorten greatest ⟨d.mantissa / 10, d.exponent + 1⟩ else d
termination_by d.mantissa
decreasing_by exact Nat.div_lt_self (by omega) (by decide)

/-- The binary digits of a double-precision number. -/
def precision : Nat := 53

/-- The greatest power of ten among double-precision numbers. -/
def greatestPower : Nat := 308

/-- Whether computing the number with double precision gives infinity: the leading digits that fit into 64 bits are
rounded, and so is the power of ten that they are multiplied by. -/
def estimateOverflows (d : Decimal) : Bool :=
  let d := d.shorten (Nat.pow 2 64 - 1)
  if d.mantissa = 0 then false
  else if d.exponent < 0 then false
  else if greatestPower < d.exponent then true
  else
    decide (overflowThreshold ≤
      roundBits precision d.mantissa * roundBits precision (Nat.pow 10 d.exponent.toNat))

end Decimal

end CallTargets
