import CallTargets.Types.Encoding
import Mathlib.Tactic.Lemma

/-!
# Erasure and descriptors

Erasure, the descriptor of a type and the search for a variable without bounds all look at a variable in the same way: at
its first bound and nothing else.  `Ty.firstBoundInduction` is the induction that goes with them, with one case for a
variable that has a first bound and one for a variable that has none.

* `Ty.erased_erased`: an erased type has nothing left to erase.
* `Ty.descriptor_erased`: erasure does not change the descriptor, unless a variable without bounds left a gap in it.
-/

namespace CallTargets

namespace Ty

/-- Induction along array components and first bounds. -/
@[elab_as_elim]
theorem firstBoundInduction {motive : Ty → Prop} (void : motive .void) (prim : ∀ p, motive (.prim p))
    (array : ∀ t, motive t → motive (.array t)) (object : ∀ name, motive (.object name))
    (boundless : motive (.typeVar []))
    (bound : ∀ t others, motive t → motive (.typeVar (t :: others)))
    (unknown : motive .unknown) : ∀ t, motive t
  | .void => void
  | .prim p => prim p
  | .array t =>
    array t (firstBoundInduction void prim array object boundless bound unknown t)
  | .object name => object name
  | .typeVar [] => boundless
  | .typeVar (t :: others) =>
    bound t others (firstBoundInduction void prim array object boundless bound unknown t)
  | .unknown => unknown

lemma erased_erased (t : Ty) : t.erased.erased = t.erased := by
  induction t using firstBoundInduction with
  | void => rfl
  | prim p => rfl
  | array t ih =>
    show Ty.array t.erased.erased = Ty.array t.erased
    rw [ih]
  | object name => rfl
  | boundless => rfl
  | bound t others ih => exact ih
  | unknown => rfl

/-- A type and its erasure have the same descriptor, provided that every variable met on the way to it has a bound. -/
lemma descriptor_erased {t : Ty} (ht : t.boundless? = none) : t.erased.descriptor = t.descriptor := by
  induction t using firstBoundInduction with
  | void => rfl
  | prim p => rfl
  | array t ih =>
    have ht' : t.boundless? = none := ht
    show '[' :: t.erased.descriptor = '[' :: t.descriptor
    rw [ih ht']
  | object name => rfl
  | boundless => exact absurd ht (by simp [boundless?, firstBoundless?])
  | bound t others ih => exact ih ht
  | unknown => rfl

end Ty

end CallTargets
