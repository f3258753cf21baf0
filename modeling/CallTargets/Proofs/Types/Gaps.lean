import CallTargets.Event.Report
import CallTargets.Proofs.Types.Erasure
import Mathlib.Data.List.Basic
import Mathlib.Logic.Relation

/-!
# Gaps in descriptors

A type is erased, and its descriptor is written, on a way inwards: from an array to its component and from a variable to
its first bound (`Ty.Inner`).  Both take the same way, and they part only where it ends at a variable without bounds.
Erasure puts the root class there.  The descriptor has nothing to put there, so that only the brackets of the arrays
on the way are left of it, and an event tells of the gap.

* `Ty.variableFree_erased`: erasure leaves no variable anywhere in a type.
* `Ty.descriptor_of_endsBoundless`: the two descriptors where there is a gap.
* `Ty.encode_eq_encode_erased_iff`: a type and its erasure have the same descriptor exactly if there is no gap.
-/

namespace CallTargets

namespace Ty

variable {s t : Ty}

/-! ### Variables in a type -/

/-- `s` stands somewhere in a type. -/
inductive Occurs (s : Ty) : Ty → Prop
  | here : Occurs s s
  | component {t : Ty} : Occurs s t → Occurs s (.array t)
  | bound {t : Ty} {bounds : List Ty} : t ∈ bounds → Occurs s t → Occurs s (.typeVar bounds)

/-- No type variable stands in the type, neither one with bounds nor one whose declaration is not known. -/
def VariableFree (t : Ty) : Prop := ∀ s, Occurs s t → s ≠ .unknown ∧ ∀ bounds, s ≠ .typeVar bounds

/-- Nothing stands in a type that is neither an array nor a variable, but the type itself. -/
lemma variableFree_of_leaf (harray : ∀ u, t ≠ .array u) (hunknown : t ≠ .unknown)
    (hvar : ∀ bounds, t ≠ .typeVar bounds) : VariableFree t := by
  intro s hs
  cases hs with
  | here => exact ⟨hunknown, hvar⟩
  | component => exact absurd rfl (harray _)
  | bound => exact absurd rfl (hvar _)

lemma VariableFree.array (ht : VariableFree t) : VariableFree (.array t) := by
  intro s hs
  cases hs with
  | here => exact ⟨by simp, by simp⟩
  | component hs => exact ht s hs

lemma variableFree_erased (t : Ty) : VariableFree t.erased := by
  have hobject (name : ClassName) : VariableFree (.object name) :=
    variableFree_of_leaf (by simp) (by simp) (by simp)
  induction t using firstBoundInduction with
  | void => exact variableFree_of_leaf (t := .void) (by simp) (by simp) (by simp)
  | prim p => exact variableFree_of_leaf (t := .prim p) (by simp) (by simp) (by simp)
  | array t ih => exact ih.array
  | object name => exact hobject name
  | boundless => exact hobject rootClass
  | bound t others ih => exact ih
  | unknown => exact hobject rootClass

/-! ### The way inwards -/

/-- One step inwards: from an array to its component, or from a variable to its first bound. -/
inductive Inner : Ty → Ty → Prop
  | component (t : Ty) : Inner (.array t) t
  | firstBound (t : Ty) (others : List Ty) : Inner (.typeVar (t :: others)) t

/-- The way inwards ends at a variable without bounds. -/
def EndsBoundless (t : Ty) : Prop := Relation.ReflTransGen Inner t (.typeVar [])

lemma Inner.boundless?_eq (hst : Inner s t) : s.boundless? = t.boundless? := by
  cases hst <;> rfl

lemma EndsBoundless.boundless?_eq (ht : EndsBoundless t) : t.boundless? = some (.typeVar []) := by
  induction ht using Relation.ReflTransGen.head_induction_on with
  | refl => rfl
  | head hstep _ ih => rw [hstep.boundless?_eq, ih]

lemma boundless?_eq_none (ht : ¬ EndsBoundless t) : t.boundless? = none := by
  induction t using firstBoundInduction with
  | array t ih => exact ih fun hend => ht (hend.head (.component t))
  | boundless => exact absurd .refl ht
  | bound t others ih => exact ih fun hend => ht (hend.head (.firstBound t others))
  | _ => rfl

/-- Where the way inwards ends at a variable without bounds, only the brackets of the arrays on it are left of the
descriptor, and they stand in front of the root class in the descriptor of the erasure. -/
lemma descriptor_of_endsBoundless (ht : EndsBoundless t) :
    ∃ k, t.descriptor = List.replicate k '[' ∧
      t.erased.descriptor = List.replicate k '[' ++ "Ljava/lang/Object;".toList := by
  induction ht using Relation.ReflTransGen.head_induction_on with
  | refl => exact ⟨0, rfl, by decide⟩
  | head hstep _ ih =>
    obtain ⟨k, hplain, herased⟩ := ih
    cases hstep with
    | component =>
      refine ⟨k + 1, ?_, ?_⟩
      · rw [descriptor, hplain, List.replicate_succ]
      · rw [erased, descriptor, herased, List.replicate_succ, List.cons_append]
    | firstBound => exact ⟨k, hplain, herased⟩

lemma events_encode_of_endsBoundless (ht : EndsBoundless t) :
    t.encode.events = [.boundlessVariable (.typeVar [])] := by
  rw [encode, ht.boundless?_eq]
  rfl

lemma events_encode_of_not_endsBoundless (ht : ¬ EndsBoundless t) : t.encode.events = [] := by
  rw [encode, boundless?_eq_none ht]
  rfl

lemma VariableFree.not_endsBoundless (ht : VariableFree t) : ¬ EndsBoundless t := by
  intro hend
  induction hend using Relation.ReflTransGen.head_induction_on with
  | refl => exact (ht _ .here).2 [] rfl
  | head hstep _ ih =>
    cases hstep with
    | component => exact ih fun s hs => ht s (.component hs)
    | firstBound => exact (ht _ .here).2 _ rfl

/-! ### Descriptors and erasure -/

/-- **Encoding agrees with erasure but for gaps.**  Erasure leaves no variable, and nothing more to erase.  A type
and its erasure have the same descriptor, unless the way inwards ends at a variable without bounds.  Then the descriptor of
the type is that of the erasure without the root class at its end, which leaves the brackets, and there is one warning.
Nothing else is ever logged. -/
theorem encode_eq_encode_erased_iff (t : Ty) :
    t.erased.VariableFree ∧ t.erased.erased = t.erased ∧
    (t.encode.value = t.erased.encode.value ↔ ¬ t.EndsBoundless) ∧
    (t.EndsBoundless →
      t.erased.encode.value = t.encode.value ++ "Ljava/lang/Object;".toList ∧
      (∃ k, t.encode.value = List.replicate k '[') ∧
      t.encode.events = [.boundlessVariable (.typeVar [])] ∧
      (Event.boundlessVariable (.typeVar [])).severity = .warn) ∧
    (¬ t.EndsBoundless → t.encode.events = []) ∧ t.erased.encode.events = [] := by
  have hgap (ht : t.EndsBoundless) : t.erased.encode.value = t.encode.value ++ "Ljava/lang/Object;".toList ∧
      ∃ k, t.encode.value = List.replicate k '[' := by
    obtain ⟨k, hplain, herased⟩ := descriptor_of_endsBoundless ht
    have hfront : t.erased.encode.value = t.descriptor ++ "Ljava/lang/Object;".toList := by
      rw [hplain]
      exact herased
    exact ⟨hfront, k, hplain⟩
  refine ⟨variableFree_erased t, erased_erased t, ⟨fun heq hend => ?_, fun hend => ?_⟩, fun hend => ?_,
    events_encode_of_not_endsBoundless,
    events_encode_of_not_endsBoundless (variableFree_erased t).not_endsBoundless⟩
  · have hlength := congrArg List.length (heq.trans (hgap hend).1)
    simp at hlength
  · exact (descriptor_erased (boundless?_eq_none hend)).symm
  · exact ⟨(hgap hend).1, (hgap hend).2, events_encode_of_endsBoundless hend, rfl⟩

/-- An array of a variable whose first bound is an array of a variable without bounds. -/
def gridOfGaps : Ty := .array (.typeVar [.array (.typeVar []), .object "a.Cell"])

lemma gridOfGaps_endsBoundless : gridOfGaps.EndsBoundless :=
  .head (.component _) (.head (.firstBound _ _) (.head (.component _) .refl))

theorem encode_gridOfGaps :
    gridOfGaps.EndsBoundless ∧ gridOfGaps.encode.value = "[[".toList ∧
      gridOfGaps.erased.encode.value = "[[Ljava/lang/Object;".toList ∧
      gridOfGaps.encode.value ≠ gridOfGaps.erased.encode.value := by
  obtain ⟨-, -, hiff, hgap, -⟩ := encode_eq_encode_erased_iff gridOfGaps
  have hbrackets : gridOfGaps.encode.value = "[[".toList := by decide
  refine ⟨gridOfGaps_endsBoundless, hbrackets, ?_, fun heq => hiff.1 heq gridOfGaps_endsBoundless⟩
  rw [(hgap gridOfGaps_endsBoundless).1, hbrackets]
  decide

end Ty

end CallTargets
