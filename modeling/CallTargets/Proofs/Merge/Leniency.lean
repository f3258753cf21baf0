import CallTargets.HintCheck
import CallTargets.Proofs.Merge.MissingSuperclass

/-!
# Strict and lenient merges

A lenient merge differs from a strict one in one rule only: where one of the two classes that are compared is not declared,
it settles for the second type instead of failing.  `Hierarchy.Tolerates` says so of the two runs as a whole, events
included, and `tolerates_mergeErased` follows them through the rules.

* `Hierarchy.Excused`: a strict merge fails since the innermost class of one of its types is not declared.
* `merge_cases`: the two merges agree, or the strict one is excused and the lenient one returns the second type.
* `sublist_checkHints`: a lenient check of the hints at a call site reports nothing that the strict one does not.
* `lenient_merge_conservative` puts these together.
-/

namespace CallTargets

/-- The class below the array dimensions of a type. -/
def Ty.innermost? : Ty → Option ClassName
  | .array t => t.innermost?
  | .object name => some name
  | .void | .prim _ | .typeVar _ | .unknown => none

namespace Hierarchy

variable {h : Hierarchy} {s t a b : Ty} {m n name : ClassName} {x y : Attempt Ty}

/-! ### The two runs of a merge -/

/-- How a strict run `x` and a lenient run `y` on the types `s` and `t` may go: in the same way, or up to the innermost
class of one of the types, which is not declared. -/
inductive Tolerates (h : Hierarchy) (s t : Ty) : Attempt Ty → Attempt Ty → Prop
  | same (x : Attempt Ty) : h.Tolerates s t x x
  | fallback (name : ClassName) : h.find? name = none → s.innermost? = some name ∨ t.innermost? = some name →
    h.Tolerates s t (mergeMissing false name t) (mergeMissing true name t)

/-- Arrays are merged as their components are, and settled for in the same way. -/
lemma Tolerates.array (hxy : h.Tolerates s t x y) :
    h.Tolerates (.array s) (.array t) (x >>= fun component => pure (.array component))
      (y >>= fun component => pure (.array component)) := by
  cases hxy with
  | same x => exact Tolerates.same _
  | fallback name hmissing hinner => exact Tolerates.fallback name hmissing hinner

lemma tolerates_mergeClasses (m n : ClassName) :
    h.Tolerates (.object m) (.object n) (h.mergeClasses false m n) (h.mergeClasses true m n) := by
  rw [mergeClasses, mergeClasses]
  cases hm : h.find? m with
  | none => exact Tolerates.fallback m hm (Or.inl rfl)
  | some c =>
    cases hn : h.find? n with
    | none => exact Tolerates.fallback n hn (Or.inr rfl)
    | some d => exact Tolerates.same _

/-- The cases are the rules of the merge in their order; only the last two look at a hierarchy. -/
lemma tolerates_mergeErased (s t : Ty) :
    h.Tolerates s t (h.mergeErased false s t) (h.mergeErased true s t) := by
  fun_induction h.mergeErased false s t with
  | case9 s t _ _ _ _ _ _ _ _ ih =>
    rw [mergeErased_arrays]
    exact ih.array
  | case10 m n _ hmr hms _ hnr hns =>
    simp only [className?_eq_some_iff, Ty.object.injEq] at hmr hnr hms hns
    rw [mergeErased_objects (not_or.2 ⟨hmr, hms⟩) (not_or.2 ⟨hnr, hns⟩)]
    exact tolerates_mergeClasses m n
  | _ =>
    -- the same rule applies to the other run, and the flag has no part in it
    rw [mergeErased.eq_def]
    simp only [*, ↓reduceIte, Bool.false_eq_true]
    exact Tolerates.same _

/-! ### When a failure is excused -/

/-- A strict merge of `a` and `b` fails since `name`, the innermost class of one of them, is not declared. -/
structure Excused (h : Hierarchy) (a b : Ty) (name : ClassName) : Prop where
  not_found : (h.merge false a b).outcome.value = .error (.classNotFound name)
  innermost : a.erased.innermost? = some name ∨ b.erased.innermost? = some name
  not_declared : h.find? name = none

/-- The innermost classes of types whose superclasses are walked up are declared. -/
lemma Stranded.innermost_declared (hstranded : h.Stranded name s t)
    (hinner : s.innermost? = some m ∨ t.innermost? = some m) : (h.find? m).isSome := by
  induction hstranded with
  | object hc hd =>
    rcases hinner with hinner | hinner
    · obtain rfl := Option.some.inj hinner
      simp [find?_name hc]
    · obtain rfl := Option.some.inj hinner
      simp [find?_name hd]
  | array _ ih => exact ih hinner

/-- Two merges of the same types agree as a whole, or the strict one is excused and the lenient one settles for the second
type. -/
lemma merge_cases (h : Hierarchy) (a b : Ty) :
    h.merge true a b = h.merge false a b ∨
      ∃ name, h.Excused a b name ∧ (h.merge true a b).outcome = ⟨.ok b.erased, [.typeNotFound name]⟩ := by
  have htolerates : h.Tolerates a.erased b.erased (h.merge false a b) (h.merge true a b) :=
    tolerates_mergeErased a.erased b.erased
  generalize hstrict : h.merge false a b = x at htolerates
  generalize h.merge true a b = y at htolerates
  cases htolerates with
  | same x => exact Or.inl rfl
  | fallback name hmissing hinner =>
    exact Or.inr ⟨name, ⟨by rw [hstrict]; rfl, hinner, hmissing⟩, rfl⟩

lemma Excused.unique (hm : h.Excused a b m) (hn : h.Excused a b n) : m = n :=
  Failure.classNotFound.inj (Except.error.inj (hm.not_found.symm.trans hn.not_found))

/-- A failure that is excused does not come up in a lenient merge, where only superclasses are missed. -/
lemma Excused.merge_ne (hexcused : h.Excused a b name) : h.merge true a b ≠ h.merge false a b := by
  intro hsame
  have hstranded : h.Stranded name a.erased b.erased :=
    stranded_of_mergeErased ((congrArg (·.outcome.value) hsame).trans hexcused.not_found)
  have hdeclared := hstranded.innermost_declared hexcused.innermost
  exact absurd hdeclared (by simp [hexcused.not_declared])

end Hierarchy

/-! ### Checking hints -/

namespace CallSite

variable {h : Hierarchy} {lenient : Bool} {subject : HintSubject} {hint type : Ty}

/-- A hint is reported if it cannot be merged with its static type. -/
lemma value_checkHint (site : CallSite) :
    (site.checkHint h lenient subject hint type).value =
      match (h.merge lenient hint type).outcome.value with
      | .ok _ => []
      | .error failure => [⟨site.display, subject, failure⟩] := by
  rw [checkHint, Logged.value_bind]
  cases (h.merge lenient hint type).outcome.value <;> rfl

lemma sublist_checkHint (site : CallSite) (h : Hierarchy) (subject : HintSubject) (hint type : Ty) :
    (site.checkHint h true subject hint type).value.Sublist (site.checkHint h false subject hint type).value := by
  rw [value_checkHint, value_checkHint]
  rcases Hierarchy.merge_cases h hint type with hsame | ⟨name, -, hsettled⟩
  · rewrite [hsame]
    exact List.Sublist.refl _
  · rw [hsettled]
    exact List.nil_sublist _

lemma sublist_checkTarget (site : CallSite) (h : Hierarchy) :
    (site.checkTarget h true).value.Sublist (site.checkTarget h false).value := by
  rw [checkTarget, checkTarget]
  cases site.target? with
  | none => exact List.Sublist.refl _
  | some hint =>
    dsimp only
    split
    · exact List.Sublist.refl _
    · exact sublist_checkHint site h .target hint _

lemma sublist_checkArguments (site : CallSite) (h : Hierarchy) (index : Nat) (pairs : List (Ty × Ty)) :
    (site.checkArguments h true index pairs).value.Sublist (site.checkArguments h false index pairs).value := by
  induction pairs generalizing index with
  | nil => exact List.Sublist.refl _
  | cons pair rest ih =>
    obtain ⟨hint, type⟩ := pair
    exact (sublist_checkHint site h (.argument index) hint type).append (ih (index + 1))

lemma sublist_checkArgumentHints (site : CallSite) (h : Hierarchy) (hints : List Ty) :
    (site.checkArgumentHints h true hints).value.Sublist (site.checkArgumentHints h false hints).value := by
  rw [checkArgumentHints, checkArgumentHints]
  cases Descriptor.parseMethod site.signature with
  | error e => exact List.Sublist.refl _
  | ok m =>
    dsimp only
    split
    · exact sublist_checkArguments site h 0 _
    · exact List.Sublist.refl _

/-- A lenient check reports some of what a strict one reports, in the same order. -/
lemma sublist_checkHints (site : CallSite) (h : Hierarchy) :
    (site.checkHints h true).value.Sublist (site.checkHints h false).value := by
  have htarget := sublist_checkTarget site h
  rw [checkHints, checkHints]
  cases site.args? with
  | none => exact htarget.append (List.Sublist.refl _)
  | some hints => exact htarget.append (sublist_checkArgumentHints site h hints)

end CallSite

namespace Hierarchy

/-! ### The main result -/

/-- **Leniency is conservative.**  A lenient merge has the same outcome as a strict one, with the same events, unless the
strict one fails since the innermost class of one of the two types is not declared.  Then it returns the second type, and
an event tells of the class.  So all that a lenient check of hints reports is reported by a strict one, with the same
failure. -/
theorem lenient_merge_conservative (h : Hierarchy) :
    (∀ a b : Ty, (∀ name, ¬ h.Excused a b name) → h.merge true a b = h.merge false a b) ∧
    (∀ (a b : Ty) (name : ClassName), h.Excused a b name →
      (h.merge true a b).outcome = ⟨.ok b.erased, [.typeNotFound name]⟩) ∧
    ∀ site : CallSite, (site.checkHints h true).value.Sublist (site.checkHints h false).value := by
  refine ⟨fun a b hnone => ?_, fun a b name hexcused => ?_, fun site => site.sublist_checkHints h⟩
  · rcases merge_cases h a b with hsame | ⟨name, hexcused, -⟩
    · exact hsame
    · exact absurd hexcused (hnone name)
  · rcases merge_cases h a b with hsame | ⟨other, hother, hsettled⟩
    · exact absurd hsame hexcused.merge_ne
    · rwa [hexcused.unique hother]

/-- In the two families a class that is not declared is excused, also below array dimensions.  A superclass that is not
declared is not, and both merges fail in the same way. -/
theorem lenient_merge_families :
    families.Excused (.array (.object "a.Stranger")) (.array (.object "a.Elder")) "a.Stranger" ∧
      (families.merge true (.array (.object "a.Stranger")) (.array (.object "a.Elder"))).outcome.value =
        .ok (.array (.object "a.Elder")) ∧
      (∀ name, ¬ families.Excused (.object "a.Orphan") (.object "a.Elder") name) ∧
      families.merge true (.object "a.Orphan") (.object "a.Elder") =
        families.merge false (.object "a.Orphan") (.object "a.Elder") := by
  obtain ⟨hsame, hsettled, -⟩ := lenient_merge_conservative families
  have hstranger : families.find? "a.Stranger" = none := by decide
  have hexcused : families.Excused (.array (.object "a.Stranger")) (.array (.object "a.Elder")) "a.Stranger" := by
    refine ⟨?_, Or.inl rfl, hstranger⟩
    change (families.mergeErased false (.array (.object "a.Stranger")) (.array (.object "a.Elder"))).outcome.value = _
    rw [mergeErased_arrays, mergeErased_objects (by decide) (by decide), mergeClasses, hstranger]
    rfl
  have hdeclared : ∀ name, ¬ families.Excused (.object "a.Orphan") (.object "a.Elder") name := by
    rintro name ⟨-, hinner, hmissing⟩
    rcases hinner with hinner | hinner
    · obtain rfl : "a.Orphan" = name := Option.some.inj hinner
      exact absurd hmissing (by decide)
    · obtain rfl : "a.Elder" = name := Option.some.inj hinner
      exact absurd hmissing (by decide)
  exact ⟨hexcused, congrArg Logged.value (hsettled _ _ _ hexcused), hdeclared, hsame _ _ hdeclared⟩

end Hierarchy

end CallTargets
