import CallTargets.Proofs.Merge.MoreDerived
import CallTargets.Proofs.Types.Erasure
import Mathlib.Data.List.Permutation
import Mathlib.Tactic.SplitIfs

/-!
# Merging three types

Three types can be merged in two ways, the first two first or the last two first.  If all four merges involved succeed, both
ways end with the same type, in every hierarchy: the declarations may be cyclic, and superclasses may be missing.

A merge always returns one of the two types that it is given (`Merges.eq_or_eq`).  So three rules need an argument.

* `void`, the root class and the marker are neutral among the types that the rules before them let through:
  `Regroups.of_neutral` deals with any neutral type.
* Of two primitive types the last one wins.
* Of two classes the first one wins if it is below the second, also if each is below the other.  Here the two ways agree
  because being below is transitive: `regroups_objects`.

Arrays inherit the property from their components.

* `merge_grouping` is the main result.
-/

namespace CallTargets

namespace Hierarchy

variable {h : Hierarchy} {s t u v : Ty} {m n o : ClassName}

/-! ### Successful merges -/

/-- The types `s` and `t` have no variables, and merging them, all classes being declared, gives `u`. -/
def Merges (h : Hierarchy) (s t u : Ty) : Prop :=
  (h.mergeErased false s t).outcome.value = .ok u

lemma Merges.unique (hu : h.Merges s t u) (hv : h.Merges s t v) : u = v :=
  Except.ok.inj (hu.symm.trans hv)

lemma merges_void_left (t : Ty) : h.Merges .void t t := by
  rw [Merges, mergeErased.eq_def]
  rfl

lemma merges_void_right (s : Ty) : h.Merges s .void s := by
  rw [Merges, mergeErased.eq_def]
  cases s <;> rfl

/-- Two types that are not references: the last one wins. -/
lemma merges_last (hs : s.isReference = false) (ht : t.isReference = false)
    (htvoid : t ≠ .void) : h.Merges s t t := by
  cases s with
  | void => exact merges_void_left t
  | prim p =>
    cases t with
    | void => exact absurd rfl htvoid
    | prim q =>
      rw [Merges, mergeErased.eq_def]
      rfl
    | _ => exact absurd ht (by simp [Ty.isReference])
  | _ => exact absurd hs (by simp [Ty.isReference])

lemma isVoid_eq_false (ht : t ≠ .void) : t.isVoid = false := by
  cases t with
  | void => exact absurd rfl ht
  | _ => rfl

/-- `void` apart, references are merged with references only. -/
lemma Merges.isReference_eq (hm : h.Merges s t u) (hs : s ≠ .void) (ht : t ≠ .void) :
    s.isReference = t.isReference := by
  by_contra hne
  have hnone : ¬ (!s.isReference && !t.isReference) = true := by
    cases hsr : s.isReference <;> cases htr : t.isReference <;> simp_all
  have herr : h.mergeErased false s t = throw (.incompatible .referenceShape s t) := by
    rw [mergeErased.eq_def, if_neg (by simp [isVoid_eq_false hs]), if_neg (by simp [isVoid_eq_false ht]),
      if_neg hnone, if_pos (by simpa using hne)]
  rw [Merges, herr] at hm
  cases hm

lemma merges_arrays_iff :
    h.Merges (.array s) (.array t) u ↔ ∃ v, h.Merges s t v ∧ u = .array v := by
  rw [Merges, mergeErased_arrays, Attempt.value_outcome_bind_eq_ok_iff]
  refine exists_congr fun v => and_congr_right fun _ => ?_
  rw [Attempt.value_outcome_pure, Except.ok.injEq, eq_comm]

/-! ### Which of two classes wins -/

variable {c d : ClassDecl}

lemma Derives.refl (c : ClassDecl) : h.Derives c c := by
  cases hc : c.isInterface with
  | true => exact Or.inl ⟨hc, Relation.ReflTransGen.refl⟩
  | false => exact Or.inr ⟨hc, hc, Relation.ReflTransGen.refl⟩

/-- Of two declarations the first one wins if it is below the second; otherwise the second one must be below the first.
Nothing is assumed about the superclasses, since a merge for which one of them is missing does not succeed. -/
lemma mergeDeclared_eq_ok (hc : c ∈ h.classes) (hd : d ∈ h.classes)
    (hok : (h.mergeDeclared c d).outcome.value = .ok u) :
    u = .object c.name ∧ h.Derives c d ∨ u = .object d.name ∧ h.Derives d c ∧ ¬ h.Derives c d := by
  cases hci : c.isInterface with
  | true =>
    cases hdi : d.isInterface with
    | true =>
      have hcd := extendsInterface_iff_derives hc hd hdi
      have hdc := extendsInterface_iff_derives hd hc hci
      rw [outcome_mergeDeclared_interfaces hci hdi] at hok
      split_ifs at hok with hp hq
      · exact Or.inl ⟨(Except.ok.inj hok).symm, hcd.1 hp⟩
      · exact Or.inr ⟨(Except.ok.inj hok).symm, hdc.1 hq, fun hder => hp (hcd.2 hder)⟩
    | false =>
      have hdc := extendsInterface_iff_derives hd hc hci
      have hnot : ¬ h.Derives c d := by simp [Derives, hci, hdi]
      rw [outcome_mergeDeclared_interface_class hci hdi] at hok
      split_ifs at hok with hq
      exact Or.inr ⟨(Except.ok.inj hok).symm, hdc.1 hq, hnot⟩
  | false =>
    cases hdi : d.isInterface with
    | true =>
      have hcd := extendsInterface_iff_derives hc hd hdi
      rw [outcome_mergeDeclared_class_interface hci hdi] at hok
      split_ifs at hok with hp
      exact Or.inl ⟨(Except.ok.inj hok).symm, hcd.1 hp⟩
    | false =>
      have hcd : h.Derives c d ↔ Relation.ReflTransGen h.Extends c d := by simp [Derives, hci, hdi]
      have hdc : h.Derives d c ↔ Relation.ReflTransGen h.Extends d c := by simp [Derives, hci, hdi]
      simp only [mergeDeclared, hci, hdi] at hok
      obtain ⟨p, hp, hok⟩ := Attempt.value_outcome_bind_eq_ok_iff.1 hok
      rw [← extendsClass_found_iff hc hd hp] at hcd
      cases p with
      | true => exact Or.inl ⟨(Except.ok.inj hok).symm, hcd.2 rfl⟩
      | false =>
        rw [if_neg (by simp)] at hok
        obtain ⟨q, hq, hok⟩ := Attempt.value_outcome_bind_eq_ok_iff.1 hok
        rw [← extendsClass_found_iff hd hc hq] at hdc
        cases q with
        | true =>
          refine Or.inr ⟨(Except.ok.inj hok).symm, hdc.2 rfl, fun hder => ?_⟩
          exact absurd (hcd.1 hder) (by simp)
        | false => cases hok

/-- The same for two classes by name, which have to be declared. -/
lemma mergeClasses_eq_ok (hok : (h.mergeClasses false m n).outcome.value = .ok u) :
    ∃ c ∈ h.classes, ∃ d ∈ h.classes, c.name = m ∧ d.name = n ∧
      (u = .object m ∧ h.Derives c d ∨ u = .object n ∧ h.Derives d c ∧ ¬ h.Derives c d) := by
  rw [mergeClasses] at hok
  cases hcf : h.find? m with
  | none =>
    rw [hcf] at hok
    cases hok
  | some c =>
    cases hdf : h.find? n with
    | none =>
      rw [hcf, hdf] at hok
      cases hok
    | some d =>
      obtain ⟨hc, rfl⟩ := find?_eq_some_iff.1 hcf
      obtain ⟨hd, rfl⟩ := find?_eq_some_iff.1 hdf
      refine ⟨c, hc, d, hd, rfl, rfl, ?_⟩
      rw [hcf, hdf] at hok
      dsimp only at hok
      split_ifs at hok with hname
      · obtain rfl := eq_of_name_eq hc hd hname
        exact Or.inl ⟨(Except.ok.inj hok).symm, Derives.refl c⟩
      · exact mergeDeclared_eq_ok hc hd hok

/-- Below the top, the first of two classes wins if it is below the second. -/
lemma Merges.object_cases (hm : ¬ IsTop m) (hn : ¬ IsTop n) (hok : h.Merges (.object m) (.object n) u) :
    u = .object m ∧ h.NameBelow m n ∨ u = .object n ∧ h.NameBelow n m ∧ ¬ h.NameBelow m n := by
  rw [Merges, mergeErased_objects hm hn] at hok
  obtain ⟨c, hc, d, hd, rfl, rfl, hcases⟩ := mergeClasses_eq_ok hok
  rcases hcases with ⟨hu, hder⟩ | ⟨hu, hder, hnot⟩
  · exact Or.inl ⟨hu, Or.inr (Or.inr (Or.inr ⟨hm, hn, c, hc, d, hd, rfl, rfl, hder⟩))⟩
  · refine Or.inr ⟨hu, Or.inr (Or.inr (Or.inr ⟨hn, hm, d, hd, c, hc, rfl, rfl, hder⟩)), fun hbelow => hnot ?_⟩
    by_cases hname : c.name = d.name
    · rw [eq_of_name_eq hc hd hname]
      exact Derives.refl d
    · exact (nameBelow_iff_derives hc hd hname hm hn).1 hbelow

/-! ### A merge selects -/

/-- **A merge returns one of the two types.**  The cases are the rules in their order; only arrays need an induction
hypothesis. -/
lemma Merges.eq_or_eq (hm : h.Merges s t u) : u = s ∨ u = t := by
  unfold Merges at hm
  fun_induction h.mergeErased false s t generalizing u with
  | case1 => exact Or.inr (Except.ok.inj hm).symm
  | case2 => exact Or.inl (Except.ok.inj hm).symm
  | case3 => exact Or.inr (Except.ok.inj hm).symm
  | case4 => cases hm
  | case5 => exact Or.inr (Except.ok.inj hm).symm
  | case6 => exact Or.inl (Except.ok.inj hm).symm
  | case7 => exact Or.inr (Except.ok.inj hm).symm
  | case8 => exact Or.inl (Except.ok.inj hm).symm
  | case9 s t _ _ _ _ _ _ _ _ ih =>
    obtain ⟨v, hv, hu⟩ := Attempt.value_outcome_bind_eq_ok_iff.1 hm
    obtain rfl : Ty.array v = u := Except.ok.inj hu
    exact (ih hv).imp (congrArg Ty.array) (congrArg Ty.array)
  | case10 m n =>
    obtain ⟨_, _, _, _, _, _, hcases⟩ := mergeClasses_eq_ok hm
    exact hcases.imp And.left And.left
  | case11 => cases hm

/-! ### Regrouping -/

/-- Merging three types gives the same in both ways, if all merges succeed. -/
def Regroups (h : Hierarchy) (s t u : Ty) : Prop :=
  ∀ st tu left right, h.Merges s t st → h.Merges t u tu → h.Merges st u left → h.Merges s tu right →
    left = right

/-- One of three types is neutral among types with the property `P`, and all three have it. -/
lemma Regroups.of_neutral {P : Ty → Prop} {e : Ty} (hleft : ∀ t, P t → h.Merges e t t)
    (hright : ∀ t, P t → h.Merges t e t) (hs : P s) (ht : P t) (hu : P u)
    (he : s = e ∨ t = e ∨ u = e) : h.Regroups s t u := by
  intro st tu left right hst htu hl hr
  rcases he with rfl | rfl | rfl
  · obtain rfl : st = t := hst.unique (hleft t ht)
    have hPtu : P tu := by
      rcases htu.eq_or_eq with rfl | rfl
      · exact ht
      · exact hu
    calc left = tu := hl.unique htu
      _ = right := (hleft tu hPtu).unique hr
  · obtain rfl : st = s := hst.unique (hright s hs)
    obtain rfl : tu = u := htu.unique (hleft u hu)
    exact hl.unique hr
  · obtain rfl : tu = t := htu.unique (hright t ht)
    have hPst : P st := by
      rcases hst.eq_or_eq with rfl | rfl
      · exact hs
      · exact ht
    calc left = st := hl.unique (hright st hPst)
      _ = right := hst.unique hr

/-- Three classes below the top.  In two of the four cases both ways merge the same pair last; in the other two the order
of the outer classes follows by transitivity. -/
lemma regroups_objects (hm : ¬ IsTop m) (hn : ¬ IsTop n) (ho : ¬ IsTop o) :
    h.Regroups (.object m) (.object n) (.object o) := by
  intro st tu left right hst htu hl hr
  rcases hst.object_cases hm hn with ⟨rfl, hmn⟩ | ⟨rfl, hnm, hmn⟩
  · rcases htu.object_cases hn ho with ⟨rfl, hno⟩ | ⟨rfl, -, -⟩
    · -- the first class is below both others
      have hright : right = .object m := hr.unique hst
      rcases hl.object_cases hm ho with ⟨hleft, -⟩ | ⟨-, -, hmo⟩
      · exact hleft.trans hright.symm
      · exact absurd (hmn.trans hno) hmo
    · exact hl.unique hr
  · rcases htu.object_cases hn ho with ⟨rfl, -⟩ | ⟨rfl, hon, -⟩
    · exact (hl.unique htu).trans (hst.unique hr)
    · -- the last class is below both others, and it is not above the first
      have hleft : left = .object o := hl.unique htu
      rcases hr.object_cases hm ho with ⟨-, hmo⟩ | ⟨hright, -, -⟩
      · exact absurd (hmo.trans hon) hmn
      · exact hleft.trans hright.symm

/-- Below the top, arrays go with arrays and classes with classes. -/
lemma Merges.same_shape (hs : s.isReference = true) (ht : t.isReference = true) (hstop : ¬ TopType s)
    (httop : ¬ TopType t) (hm : h.Merges s t u) :
    (∃ s' t', s = .array s' ∧ t = .array t') ∨ ∃ m n, s = .object m ∧ t = .object n := by
  rw [Merges, mergeErased_below_top hs ht hstop httop, mergeShapes.eq_def] at hm
  split at hm
  · exact Or.inl ⟨_, _, rfl, rfl⟩
  · exact Or.inr ⟨_, _, rfl, rfl⟩
  · cases hm

lemma Regroups.array (hcomp : h.Regroups s t u) : h.Regroups (.array s) (.array t) (.array u) := by
  intro st tu left right hst htu hl hr
  obtain ⟨st', hst', rfl⟩ := merges_arrays_iff.1 hst
  obtain ⟨tu', htu', rfl⟩ := merges_arrays_iff.1 htu
  obtain ⟨left', hl', rfl⟩ := merges_arrays_iff.1 hl
  obtain ⟨right', hr', rfl⟩ := merges_arrays_iff.1 hr
  exact congrArg Ty.array (hcomp st' tu' left' right' hst' htu' hl' hr')

/-- References below the top. -/
lemma regroups_below_top (hcomp : ∀ s', s = .array s' → ∀ t u, h.Regroups s' t u)
    (hs : s.isReference = true) (ht : t.isReference = true) (hu : u.isReference = true)
    (hstop : ¬ TopType s) (httop : ¬ TopType t) (hutop : ¬ TopType u) : h.Regroups s t u := by
  intro st tu left right hst htu hl hr
  rcases hst.same_shape hs ht hstop httop with ⟨s', t', rfl, rfl⟩ | ⟨m, n, rfl, rfl⟩
  · rcases htu.same_shape ht hu httop hutop with ⟨_, u', -, rfl⟩ | ⟨_, _, heq, -⟩
    · exact (hcomp s' rfl t' u').array st tu left right hst htu hl hr
    · cases heq
  · rcases htu.same_shape ht hu httop hutop with ⟨_, _, heq, -⟩ | ⟨_, o, -, rfl⟩
    · cases heq
    · exact regroups_objects (mt topType_object_iff.2 hstop) (mt topType_object_iff.2 httop)
        (mt topType_object_iff.2 hutop) st tu left right hst htu hl hr

/-- References of any kind: the two classes at the top are neutral, one after the other. -/
lemma regroups_references (hcomp : ∀ s', s = .array s' → ∀ t u, h.Regroups s' t u)
    (hs : s.isReference = true) (ht : t.isReference = true) (hu : u.isReference = true) :
    h.Regroups s t u := by
  by_cases hroot : s = .object rootClass ∨ t = .object rootClass ∨ u = .object rootClass
  · refine Regroups.of_neutral (P := fun t => t.isReference = true) (fun t ht => ?_) (fun t ht => ?_)
      hs ht hu hroot
    · rw [Merges, mergeErased_root_left ht]
      rfl
    · rw [Merges, mergeErased_root_right ht]
      rfl
  simp only [not_or] at hroot
  obtain ⟨hsr, htr, hur⟩ := hroot
  by_cases hser : s = .object serializable ∨ t = .object serializable ∨ u = .object serializable
  · refine Regroups.of_neutral (P := fun t => t.isReference = true ∧ t ≠ .object rootClass)
      (fun t ht => ?_) (fun t ht => ?_) ⟨hs, hsr⟩ ⟨ht, htr⟩ ⟨hu, hur⟩ hser
    · rw [Merges, mergeErased_serializable_left ht.1 ht.2]
      rfl
    · rw [Merges, mergeErased_serializable_right ht.1 ht.2]
      rfl
  simp only [not_or] at hser
  obtain ⟨hss, hts, hus⟩ := hser
  exact regroups_below_top hcomp hs ht hu (not_or.2 ⟨hsr, hss⟩) (not_or.2 ⟨htr, hts⟩) (not_or.2 ⟨hur, hus⟩)

/-- All types, given the components of the first one. -/
lemma regroups_of_components (hcomp : ∀ s', s = .array s' → ∀ t u, h.Regroups s' t u) (t u : Ty) :
    h.Regroups s t u := by
  by_cases hvoid : s = .void ∨ t = .void ∨ u = .void
  · exact Regroups.of_neutral (P := fun _ => True) (fun t _ => merges_void_left t)
      (fun t _ => merges_void_right t) trivial trivial trivial hvoid
  simp only [not_or] at hvoid
  obtain ⟨hsv, htv, huv⟩ := hvoid
  intro st tu left right hst htu hl hr
  -- the shapes agree, or one of the inner merges would have failed
  have hst_ref := hst.isReference_eq hsv htv
  have htu_ref := htu.isReference_eq htv huv
  cases hs : s.isReference with
  | true =>
    have ht : t.isReference = true := hst_ref.symm.trans hs
    have hu : u.isReference = true := htu_ref.symm.trans ht
    exact regroups_references hcomp hs ht hu st tu left right hst htu hl hr
  | false =>
    have ht : t.isReference = false := hst_ref.symm.trans hs
    have hu : u.isReference = false := htu_ref.symm.trans ht
    obtain rfl : st = t := hst.unique (merges_last hs ht htv)
    obtain rfl : tu = u := htu.unique (merges_last ht hu huv)
    exact (hl.unique (merges_last ht hu huv)).trans ((merges_last hs hu huv).unique hr)

/-- **Types without variables** can be regrouped, by induction on the dimensions of the first one. -/
lemma regroups (s t u : Ty) : h.Regroups s t u := by
  induction s using Ty.firstBoundInduction generalizing t u with
  | array s ih =>
    refine regroups_of_components (fun s' hs => ?_) t u
    obtain rfl : s = s' := Ty.array.inj hs
    exact ih
  | _ =>
    refine regroups_of_components (fun s' hs => ?_) t u
    exact absurd hs (by simp)

/-! ### The main result -/

/-- **Merging does not depend on grouping**, wherever all merges involved succeed. -/
theorem merge_grouping (h : Hierarchy) (a b c ab bc left right : Ty)
    (hab : (h.merge false a b).outcome.value = .ok ab) (hbc : (h.merge false b c).outcome.value = .ok bc)
    (hleft : (h.merge false ab c).outcome.value = .ok left)
    (hright : (h.merge false a bc).outcome.value = .ok right) : left = right := by
  -- what was merged has no variables, so erasing it again does nothing
  have herased : ∀ {x y z : Ty}, h.Merges x.erased y.erased z → z.erased = z := by
    intro x y z hm
    rcases hm.eq_or_eq with rfl | rfl
    · exact Ty.erased_erased x
    · exact Ty.erased_erased y
  have hl : h.Merges ab.erased c.erased left := hleft
  have hr : h.Merges a.erased bc.erased right := hright
  rw [herased hab] at hl
  rw [herased hbc] at hr
  exact regroups a.erased b.erased c.erased ab bc left right hab hbc hl hr

/-- Two classes that extend each other, and a class below both. -/
def mirrors : Hierarchy :=
  (ofList [⟨"a.Left", 0, some "a.Right", [], .topLevel, []⟩,
    ⟨"a.Right", 0, some "a.Left", [], .topLevel, []⟩,
    ⟨"a.Image", 0, some "a.Left", [], .topLevel, []⟩]).value

/-- In a cycle the first class wins. -/
lemma merges_mirrors (hm : m = "a.Left" ∨ m = "a.Right") (hn : n = "a.Left" ∨ n = "a.Right") :
    mirrors.Merges (.array (.object m)) (.array (.object n)) (.array (.object m)) := by
  refine merges_arrays_iff.2 ⟨.object m, ?_, rfl⟩
  rcases hm with rfl | rfl <;> rcases hn with rfl | rfl <;>
    rw [Merges, mergeErased_objects (by decide) (by decide)] <;> cbv

/-- The class below wins, in the first place and in the second. -/
lemma merges_image :
    mirrors.Merges (.array (.object "a.Left")) (.array (.object "a.Image")) (.array (.object "a.Image")) ∧
      mirrors.Merges (.array (.object "a.Image")) (.array (.object "a.Right"))
        (.array (.object "a.Image")) := by
  constructor <;> refine merges_arrays_iff.2 ⟨.object "a.Image", ?_, rfl⟩ <;>
    rw [Merges, mergeErased_objects (by decide) (by decide)] <;> cbv

/-- Arrays of the two classes and of a variable.  Bounded by the first class, the variable decides nothing; bounded by the
class below both, it decides all. -/
theorem merge_grouping_mirrors :
    (∃ left right : Ty,
      (mirrors.merge false (.array (.object "a.Left")) (.array (.object "a.Right"))).outcome.value =
        .ok (.array (.object "a.Left")) ∧
      (mirrors.merge false (.array (.object "a.Right")) (.array (.typeVar [.object "a.Left"]))).outcome.value =
        .ok (.array (.object "a.Right")) ∧
      (mirrors.merge false (.array (.object "a.Left")) (.array (.typeVar [.object "a.Left"]))).outcome.value =
        .ok left ∧
      (mirrors.merge false (.array (.object "a.Left")) (.array (.object "a.Right"))).outcome.value =
        .ok right ∧
      left = right) ∧
    ∃ left right : Ty,
      (mirrors.merge false (.array (.object "a.Left")) (.array (.typeVar [.object "a.Image"]))).outcome.value =
        .ok (.array (.object "a.Image")) ∧
      (mirrors.merge false (.array (.typeVar [.object "a.Image"])) (.array (.object "a.Right"))).outcome.value =
        .ok (.array (.object "a.Image")) ∧
      (mirrors.merge false (.array (.object "a.Image")) (.array (.object "a.Right"))).outcome.value =
        .ok left ∧
      (mirrors.merge false (.array (.object "a.Left")) (.array (.object "a.Image"))).outcome.value =
        .ok right ∧
      left = right ∧ right = .array (.object "a.Image") := by
  constructor
  · have hab : (mirrors.merge false (.array (.object "a.Left")) (.array (.object "a.Right"))).outcome.value =
        .ok (.array (.object "a.Left")) := merges_mirrors (Or.inl rfl) (Or.inr rfl)
    have hbc : (mirrors.merge false (.array (.object "a.Right"))
        (.array (.typeVar [.object "a.Left"]))).outcome.value = .ok (.array (.object "a.Right")) :=
      merges_mirrors (Or.inr rfl) (Or.inl rfl)
    have hleft : (mirrors.merge false (.array (.object "a.Left"))
        (.array (.typeVar [.object "a.Left"]))).outcome.value = .ok (.array (.object "a.Left")) :=
      merges_mirrors (Or.inl rfl) (Or.inl rfl)
    exact ⟨_, _, hab, hbc, hleft, hab, merge_grouping mirrors _ _ _ _ _ _ _ hab hbc hleft hab⟩
  · obtain ⟨hfirst, hlast⟩ := merges_image
    have hab : (mirrors.merge false (.array (.object "a.Left"))
        (.array (.typeVar [.object "a.Image"]))).outcome.value = .ok (.array (.object "a.Image")) := hfirst
    have hbc : (mirrors.merge false (.array (.typeVar [.object "a.Image"]))
        (.array (.object "a.Right"))).outcome.value = .ok (.array (.object "a.Image")) := hlast
    have hleft : (mirrors.merge false (.array (.object "a.Image"))
        (.array (.object "a.Right"))).outcome.value = .ok (.array (.object "a.Image")) := hlast
    have hright : (mirrors.merge false (.array (.object "a.Left"))
        (.array (.object "a.Image"))).outcome.value = .ok (.array (.object "a.Image")) := hfirst
    exact ⟨_, _, hab, hbc, hleft, hright, merge_grouping mirrors _ _ _ _ _ _ _ hab hbc hleft hright, rfl⟩

end Hierarchy

end CallTargets
