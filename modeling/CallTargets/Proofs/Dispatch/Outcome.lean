import CallTargets.Dispatch.Failure
import Mathlib.Tactic.Lemma

/-!
# The outcome of an attempt

The outcome of an attempt does not depend on the events that it reports or on the readings that it takes, and a sequence
of attempts fails with the first failure in it.  The readings up to that failure are kept: `readings_bind` says what
has been taken at the end of a sequence.

`Attempt.SameUnless` compares two attempts that do the same until one of them is stopped.
-/

namespace CallTargets

namespace Attempt

variable {α β : Type} {x y : Attempt α} {f g : α → Attempt β} {a : α} {e : Failure}

@[simp] lemma value_outcome_pure (a : α) : (pure a : Attempt α).outcome.value = .ok a := rfl

lemma value_outcome_bind (x : Attempt α) (f : α → Attempt β) :
    (x >>= f).outcome.value = x.outcome.value.bind fun a => (f a).outcome.value := by
  change (ExceptT.bindCont f x.outcome.value).value = _
  cases x.outcome.value with
  | ok a => rfl
  | error e => rfl

lemma value_outcome_bind_of_ok (hx : x.outcome.value = .ok a) :
    (x >>= f).outcome.value = (f a).outcome.value := by
  rw [value_outcome_bind, hx]
  rfl

lemma value_outcome_bind_of_error (hx : x.outcome.value = .error e) :
    (x >>= f).outcome.value = .error e := by
  rw [value_outcome_bind, hx]
  rfl

/-- A sequence succeeds exactly if both of its parts do. -/
lemma value_outcome_bind_eq_ok_iff {b : β} :
    (x >>= f).outcome.value = .ok b ↔ ∃ a, x.outcome.value = .ok a ∧ (f a).outcome.value = .ok b := by
  cases hx : x.outcome.value with
  | error e => simp [value_outcome_bind_of_error hx]
  | ok a => simp [value_outcome_bind_of_ok hx]

/-- A sequence fails exactly if one of its parts does. -/
lemma value_outcome_bind_eq_error_iff :
    (x >>= f).outcome.value = .error e ↔
      x.outcome.value = .error e ∨ ∃ a, x.outcome.value = .ok a ∧ (f a).outcome.value = .error e := by
  cases hx : x.outcome.value with
  | error e => simp [value_outcome_bind_of_error hx]
  | ok a => simp [value_outcome_bind_of_ok hx]

@[simp] lemma value_outcome_lift_bind (x : Logged α) (f : α → Attempt β) :
    (Attempt.lift x >>= f).outcome.value = (f x.value).outcome.value := rfl

/-! ### Readings -/

/-- The readings of a sequence.  Those of its first part are kept even if the second one fails. -/
lemma readings_bind (x : Attempt α) (f : α → Attempt β) :
    (x >>= f).readings = x.readings ++
      match x.outcome.value with
      | .ok a => (f a).readings
      | .error _ => [] := by
  change x.readings ++ (ExceptT.bindCont f x.outcome.value).readings = _
  cases x.outcome.value with
  | ok a => rfl
  | error e => rfl

/-- A sequence of parts that take no readings takes none. -/
lemma readings_bind_eq_nil (hx : x.readings = []) (hf : ∀ a, (f a).readings = []) :
    (x >>= f).readings = [] := by
  rw [readings_bind, hx]
  cases x.outcome.value with
  | ok a => exact hf a
  | error e => rfl

/-! ### Attempts that are stopped -/

/-- The first attempt fails with `e`, or both are the same. -/
def SameUnless (e : Failure) (x y : Attempt α) : Prop := x.outcome.value = .error e ∨ x = y

lemma SameUnless.refl (x : Attempt α) : SameUnless e x x := Or.inr rfl

/-- What follows a first part matters only where that part succeeds. -/
lemma bind_congr_of_ok (hfg : ∀ a, x.outcome.value = .ok a → f a = g a) : x >>= f = x >>= g := by
  have hcont : ExceptT.bindCont f x.outcome.value = ExceptT.bindCont g x.outcome.value := by
    cases hx : x.outcome.value with
    | ok a => exact hfg a hx
    | error e => rfl
  have hbind : ∀ k : α → Attempt β, x >>= k =
      ⟨⟨(ExceptT.bindCont k x.outcome.value).value,
        x.outcome.events ++ (ExceptT.bindCont k x.outcome.value).events⟩,
        x.readings ++ (ExceptT.bindCont k x.outcome.value).readings⟩ := fun k => rfl
  rw [hbind, hbind, hcont]

lemma SameUnless.bind (hxy : SameUnless e x y) (hfg : ∀ a, SameUnless e (f a) (g a)) :
    SameUnless e (x >>= f) (y >>= g) := by
  rcases hxy with herr | rfl
  · exact Or.inl (value_outcome_bind_of_error herr)
  -- the same first part goes on with the same value, or with none
  · cases hx : x.outcome.value with
    | error e' => exact Or.inr (bind_congr_of_ok fun a ha => absurd (hx.symm.trans ha) (by simp))
    | ok a =>
      rcases hfg a with herr | heq
      · exact Or.inl ((value_outcome_bind_of_ok hx).trans herr)
      · refine Or.inr (bind_congr_of_ok fun a' ha' => ?_)
        obtain rfl : a = a' := Except.ok.inj (hx.symm.trans ha')
        exact heq

end Attempt

end CallTargets
