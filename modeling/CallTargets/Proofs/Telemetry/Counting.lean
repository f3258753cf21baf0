import CallTargets.Session
import Mathlib.Data.String.Basic
import Mathlib.Tactic.Lemma

/-!
# What readings add up to

A registry counts readings one by one.  Two of its counters start again from zero after `2 ^ 64` readings; the ones by
interface stay at the greatest number instead.

* `Metrics.lookup_countOwner`: counting one more for an interface leaves the counts of all others as they are.
* `Metrics.AddsUp`: a registry shows certain readings.
* `AddsUp.record` is the step and `addsUp_recordAll` the run: a fresh registry shows the readings it was given.
-/

namespace CallTargets

/-- Whether a reading is that of a resolved call. -/
def Reading.isFanout : Reading → Bool
  | .fanout .. => true
  | .anonymousUnbounded | .unbounded _ => false

namespace Metrics

variable {m : Metrics} {readings : List Reading} {tallies : List (ClassName × UInt64)}
  {owner name : ClassName}

/-! ### Counts by interface -/

/-- The names of some counts ascend, so that none occurs twice. -/
abbrev Ascending (tallies : List (ClassName × UInt64)) : Prop := tallies.Pairwise fun p q => p.1 < q.1

lemma lookup_cons_eq_ite (other : ClassName) (n : UInt64) :
    ((other, n) :: tallies).lookup name = if name = other then some n else tallies.lookup name := by
  rw [List.lookup_cons]
  split
  · rename_i heq
    rw [if_pos (beq_iff_eq.1 heq)]
  · rename_i hne
    rw [if_neg (beq_eq_false_iff_ne.1 hne)]

/-- A name below the first of ascending counts is below all of them. -/
lemma Ascending.lt_of_mem {other : ClassName} {n : UInt64} (hasc : Ascending ((other, n) :: tallies))
    (hlt : owner < other) {p : ClassName × UInt64} (hp : p ∈ (other, n) :: tallies) : owner < p.1 := by
  rcases List.mem_cons.1 hp with rfl | hp
  · exact hlt
  · exact String.lt_trans hlt ((List.pairwise_cons.1 hasc).1 p hp)

/-- A name below all others has no count. -/
lemma lookup_eq_none_of_lt (hlt : ∀ p ∈ tallies, name < p.1) : tallies.lookup name = none := by
  refine List.lookup_eq_none_iff.2 fun p hp => bne_iff_ne.2 fun heq => ?_
  exact absurd (hlt p hp) (by rw [heq]; exact String.lt_irrefl _)

lemma mem_countOwner_name {p : ClassName × UInt64} (hp : p ∈ countOwner owner tallies) :
    p.1 = owner ∨ ∃ q ∈ tallies, q.1 = p.1 := by
  induction tallies with
  | nil => exact Or.inl (by rw [List.mem_singleton.1 hp])
  | cons q rest ih =>
    obtain ⟨other, n⟩ := q
    rw [countOwner] at hp
    split at hp
    · rcases List.mem_cons.1 hp with rfl | hp
      · exact Or.inl rfl
      · exact Or.inr ⟨p, hp, rfl⟩
    · split at hp
      · rcases List.mem_cons.1 hp with rfl | hp
        · exact Or.inr ⟨(other, n), List.mem_cons_self, rfl⟩
        · exact Or.inr ⟨p, List.mem_cons_of_mem _ hp, rfl⟩
      · rcases List.mem_cons.1 hp with rfl | hp
        · exact Or.inr ⟨(other, n), List.mem_cons_self, rfl⟩
        · rcases ih hp with heq | ⟨q, hq, heq⟩
          · exact Or.inl heq
          · exact Or.inr ⟨q, List.mem_cons_of_mem _ hq, heq⟩

lemma ascending_countOwner (hasc : Ascending tallies) : Ascending (countOwner owner tallies) := by
  induction tallies with
  | nil => exact List.pairwise_singleton _ _
  | cons q rest ih =>
    obtain ⟨other, n⟩ := q
    obtain ⟨hother, hrest⟩ := List.pairwise_cons.1 hasc
    rw [countOwner]
    split
    · rename_i hlt
      exact List.pairwise_cons.2 ⟨fun p hp => hasc.lt_of_mem hlt hp, hasc⟩
    · rename_i hge
      split
      · exact List.pairwise_cons.2 ⟨hother, hrest⟩
      · rename_i hne
        refine List.pairwise_cons.2 ⟨fun p hp => ?_, ih hrest⟩
        change other < p.1
        rcases mem_countOwner_name hp with heq | ⟨q, hq, heq⟩
        · rw [heq]
          exact lt_of_le_of_ne (not_lt.1 hge) (Ne.symm hne)
        · rw [← heq]
          exact hother q hq

/-- One more is counted for `owner`, and the counts of the others stay. -/
lemma lookup_countOwner (hasc : Ascending tallies) (name : ClassName) :
    (countOwner owner tallies).lookup name =
      if name = owner then some ((tallies.lookup owner).elim 1 bump) else tallies.lookup name := by
  induction tallies with
  | nil => rw [countOwner, lookup_cons_eq_ite, List.lookup_nil, List.lookup_nil, Option.elim_none]
  | cons q rest ih =>
    obtain ⟨other, n⟩ := q
    rw [countOwner]
    split
    · rename_i hlt
      -- the new name is below all others, so it has no count yet
      have hnone : ((other, n) :: rest).lookup owner = none :=
        lookup_eq_none_of_lt fun p hp => hasc.lt_of_mem hlt hp
      rw [hnone, lookup_cons_eq_ite, Option.elim_none]
    · split
      · rename_i heq
        subst heq
        by_cases hname : name = owner <;> simp [lookup_cons_eq_ite, hname]
      · rename_i hne
        rw [lookup_cons_eq_ite, lookup_cons_eq_ite, lookup_cons_eq_ite, ih (List.pairwise_cons.1 hasc).2,
          if_neg hne]
        by_cases hname : name = other
        · have hno : name ≠ owner := fun heq => hne (heq.symm.trans hname)
          rw [if_pos hname, if_neg hno, if_pos hname]
        · rw [if_neg hname, if_neg hname]

/-! ### Numbers -/

/-- How often a name has been counted, where a name that has not been counted is left out. -/
def shown (k : Nat) : Option UInt64 := if k = 0 then none else some (UInt64.ofNat (min k (2 ^ 64 - 1)))

lemma bump_ofNat (k : Nat) :
    bump (UInt64.ofNat (min k (2 ^ 64 - 1))) = UInt64.ofNat (min (k + 1) (2 ^ 64 - 1)) := by
  rw [bump, ← UInt64.toNat_inj]
  by_cases hk : k < 2 ^ 64 - 1
  · have hsucc : UInt64.ofNat (min k (2 ^ 64 - 1)) + 1 = UInt64.ofNat (min (k + 1) (2 ^ 64 - 1)) := by
      rw [min_eq_left hk.le, min_eq_left (by omega), UInt64.ofNat_add]
      rfl
    rw [hsucc, if_neg]
    rw [← UInt64.toNat_inj, UInt64.toNat_ofNat', min_eq_left (by omega), Nat.mod_eq_of_lt (by omega)]
    simp
  · -- at the greatest number one more would be zero
    rw [min_eq_right (by omega), min_eq_right (by omega), if_pos (by decide)]

/-- Counting once more shows the next number. -/
lemma some_elim_shown (k : Nat) : some ((shown k).elim 1 bump) = shown (k + 1) := by
  rw [shown, shown, if_neg (Nat.succ_ne_zero k)]
  by_cases hk : k = 0
  · subst hk
    rfl
  · rw [if_neg hk, Option.elim_some, bump_ofNat]

lemma toNat_ofNat_of_le {k n : Nat} (hkn : k ≤ n) (hn : n < 2 ^ 64) : (UInt64.ofNat k).toNat = k := by
  rw [UInt64.toNat_ofNat', Nat.mod_eq_of_lt (hkn.trans_lt hn)]

/-- Below the greatest number, the number itself is shown. -/
lemma map_toNat_shown {k n : Nat} (hkn : k ≤ n) (hn : n < 2 ^ 64) :
    (shown k).map UInt64.toNat = if k = 0 then none else some k := by
  rw [shown, apply_ite (Option.map UInt64.toNat), Option.map_some, min_eq_left (by omega),
    toNat_ofNat_of_le hkn hn]
  rfl

/-! ### Registries -/

/-- The registry `m` shows what `readings` add up to. -/
structure AddsUp (m : Metrics) (readings : List Reading) : Prop where
  /-- The number of resolved calls. -/
  resolved : m.resolved = UInt64.ofNat (readings.countP Reading.isFanout)
  /-- The number of unbounded calls. -/
  unbounded : m.unbounded = UInt64.ofNat (readings.countP Sinks.isUnbounded)
  /-- Every interface is listed once. -/
  ascending : Ascending m.byOwner
  /-- The number of unbounded calls for each interface. -/
  byOwner : ∀ name, m.byOwner.lookup name = shown (readings.count (.unbounded name))

lemma addsUp_nil : AddsUp {} [] := ⟨rfl, rfl, List.Pairwise.nil, fun _ => rfl⟩

/-- One more reading. -/
lemma AddsUp.record (hm : m.AddsUp readings) (reading : Reading) :
    (m.record reading).AddsUp (readings ++ [reading]) := by
  have hsucc : ∀ k, UInt64.ofNat k + 1 = UInt64.ofNat (k + 1) := fun k => (UInt64.ofNat_add k 1).symm
  refine ⟨?_, ?_, ?_, fun name => ?_⟩
  · rw [List.countP_append]
    cases reading with
    | fanout owner targets => exact (congrArg (· + 1) hm.resolved).trans (hsucc _)
    | _ => exact hm.resolved
  · rw [List.countP_append]
    cases reading with
    | fanout owner targets => exact hm.unbounded
    | _ => exact (congrArg (· + 1) hm.unbounded).trans (hsucc _)
  · cases reading with
    | unbounded owner => exact ascending_countOwner hm.ascending
    | _ => exact hm.ascending
  · rw [List.count_append]
    cases reading with
    | unbounded owner =>
      change (countOwner owner m.byOwner).lookup name = _
      rw [lookup_countOwner hm.ascending, hm.byOwner, hm.byOwner, some_elim_shown]
      by_cases heq : name = owner
      · simp [heq]
      · have hne : owner ≠ name := Ne.symm heq
        simp [heq, hne]
    | _ => exact hm.byOwner name

lemma AddsUp.recordAll (hm : m.AddsUp readings) (more : List Reading) :
    (m.recordAll more).AddsUp (readings ++ more) := by
  induction more generalizing m readings with
  | nil => rwa [List.append_nil]
  | cons reading more ih =>
    have hstep := ih (hm.record reading)
    rwa [List.append_assoc, List.singleton_append] at hstep

/-- **A fresh registry** shows what it is given. -/
lemma addsUp_recordAll (readings : List Reading) : (recordAll {} readings).AddsUp readings :=
  addsUp_nil.recordAll readings

end Metrics

end CallTargets
