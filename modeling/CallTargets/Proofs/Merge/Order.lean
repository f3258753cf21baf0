import CallTargets.Merge
import CallTargets.Proofs.Hierarchy.Subtypes

/-!
# The order of types

A type is below another if it is more derived.  Among classes the root class is above everything and the serialization
marker above everything else; apart from these two, the order is the one that the hierarchy declares.  Arrays are
ordered by their components, and every array is below the two classes at the top.

The order is a partial one if no declaration is above itself: `Below.refl`, `Below.trans` and `Below.antisymm`.  Only
antisymmetry needs the assumption.
-/

namespace CallTargets

/-- The two names above all others, declared or not. -/
def IsTop (name : ClassName) : Prop := name = rootClass ∨ name = serializable

instance (name : ClassName) : Decidable (IsTop name) := inferInstanceAs (Decidable (_ ∨ _))

namespace Hierarchy

/-! ### Assumptions on the declarations -/

/-- No declaration is above itself, through superclasses and interfaces. -/
def Acyclic (h : Hierarchy) : Prop := ∀ c ∈ h.classes, ¬ Relation.TransGen h.Supertype c c

/-- The superclass of every declaration is declared. -/
def SuperclassesDeclared (h : Hierarchy) : Prop :=
  ∀ c ∈ h.classes, ∀ name, c.superName = some name → (h.find? name).isSome

/-- A class that is declared or at the top, or an array of such. -/
inductive Known (h : Hierarchy) : Ty → Prop
  | object {name : ClassName} : IsTop name ∨ (h.find? name).isSome → h.Known (.object name)
  | array {component : Ty} : h.Known component → h.Known (.array component)

/-! ### The order -/

/-- The declaration `c` is below `d`: an interface is reached along all edges, a class along those to superclasses. -/
def Derives (h : Hierarchy) (c d : ClassDecl) : Prop :=
  d.isInterface = true ∧ Relation.ReflTransGen h.Supertype c d ∨
    c.isInterface = false ∧ d.isInterface = false ∧ Relation.ReflTransGen h.Extends c d

/-- The order of class names. -/
def NameBelow (h : Hierarchy) (m n : ClassName) : Prop :=
  m = n ∨ n = rootClass ∨ n = serializable ∧ m ≠ rootClass ∨
    ¬ IsTop m ∧ ¬ IsTop n ∧ ∃ c ∈ h.classes, ∃ d ∈ h.classes, c.name = m ∧ d.name = n ∧ h.Derives c d

/-- The order of types. -/
inductive Below (h : Hierarchy) : Ty → Ty → Prop
  | object {m n : ClassName} : h.NameBelow m n → h.Below (.object m) (.object n)
  | arrayTop {s : Ty} {n : ClassName} : IsTop n → h.Below (.array s) (.object n)
  | array {s t : Ty} : h.Below s t → h.Below (.array s) (.array t)

variable {h : Hierarchy} {c d e : ClassDecl} {m n o : ClassName} {s t u : Ty}

/-! ### Declarations -/

lemma mem_of_supertypes (hc : c ∈ h.classes) (hcd : Relation.ReflTransGen h.Supertype c d) :
    d ∈ h.classes := by
  induction hcd with
  | refl => exact hc
  | tail _ hstep _ => exact hstep.1

lemma Derives.supertypes (hcd : h.Derives c d) : Relation.ReflTransGen h.Supertype c d := by
  rcases hcd with ⟨-, hpath⟩ | ⟨-, -, hpath⟩
  · exact hpath
  · exact Relation.ReflTransGen.mono (fun _ _ => Extends.supertype) _ _ hpath

lemma Derives.trans (hcd : h.Derives c d) (hde : h.Derives d e) : h.Derives c e := by
  rcases hde with ⟨he, hpath⟩ | ⟨hd, he, hpath⟩
  · exact Or.inl ⟨he, hcd.supertypes.trans hpath⟩
  · rcases hcd with ⟨hd', -⟩ | ⟨hc, -, hpath'⟩
    · exact absurd (hd.symm.trans hd') (by simp)
    · exact Or.inr ⟨hc, he, hpath'.trans hpath⟩

/-- Two declarations that are above each other are the same. -/
lemma Acyclic.eq_of_derives (hacyclic : h.Acyclic) (hc : c ∈ h.classes) (hcd : h.Derives c d)
    (hdc : h.Derives d c) : c = d := by
  -- two paths of which the first has a step make a cycle
  rcases Relation.reflTransGen_iff_eq_or_transGen.1 hcd.supertypes with heq | hpath
  · exact heq.symm
  · exact absurd (hpath.trans_left hdc.supertypes) (hacyclic c hc)

/-- Ranks that fall along every edge rule out cycles. -/
lemma acyclic_of_rank (rank : ClassName → Nat) (hrank : ∀ c ∈ h.classes, ∀ d ∈ h.classes,
    c.superName = some d.name ∨ d.name ∈ c.interfaces → rank d.name < rank c.name) : h.Acyclic := by
  intro c hc hcycle
  have hfall : ∀ d, Relation.TransGen h.Supertype c d → d ∈ h.classes ∧ rank d.name < rank c.name := by
    intro d hcd
    induction hcd with
    | @single d hstep => exact ⟨hstep.1, hrank c hc d hstep.1 hstep.2⟩
    | @tail d e _ hstep ih => exact ⟨hstep.1, Nat.lt_trans (hrank d ih.1 e hstep.1 hstep.2) ih.2⟩
  exact absurd (hfall c hcycle).2 (Nat.lt_irrefl _)

/-! ### Class names -/

lemma eq_rootClass_of_nameBelow (hn : h.NameBelow rootClass n) : n = rootClass := by
  rcases hn with rfl | hn | ⟨-, hne⟩ | ⟨hm, -⟩
  · rfl
  · exact hn
  · exact absurd rfl hne
  · exact absurd (Or.inl rfl) hm

lemma NameBelow.isTop (hmn : h.NameBelow m n) (hm : IsTop m) : IsTop n := by
  rcases hmn with rfl | hn | ⟨hn, -⟩ | ⟨hm', -⟩
  · exact hm
  · exact Or.inl hn
  · exact Or.inr hn
  · exact absurd hm hm'

lemma nameBelow_of_isTop (hm : m ≠ rootClass) (hn : IsTop n) : h.NameBelow m n := by
  rcases hn with hn | hn
  · exact Or.inr (Or.inl hn)
  · exact Or.inr (Or.inr (Or.inl ⟨hn, hm⟩))

/-- Below the top, the order of names is the one of the declarations. -/
lemma nameBelow_iff_derives (hc : c ∈ h.classes) (hd : d ∈ h.classes) (hcd : c.name ≠ d.name)
    (hctop : ¬ IsTop c.name) (hdtop : ¬ IsTop d.name) :
    h.NameBelow c.name d.name ↔ h.Derives c d := by
  constructor
  · rintro (heq | hroot | ⟨hser, -⟩ | ⟨-, -, c', hc', d', hd', hcn, hdn, hder⟩)
    · exact absurd heq hcd
    · exact absurd (Or.inl hroot) hdtop
    · exact absurd (Or.inr hser) hdtop
    · rwa [← eq_of_name_eq hc' hc hcn, ← eq_of_name_eq hd' hd hdn]
  · intro hder
    exact Or.inr (Or.inr (Or.inr ⟨hctop, hdtop, c, hc, d, hd, rfl, rfl, hder⟩))

lemma NameBelow.trans (hmn : h.NameBelow m n) (hno : h.NameBelow n o) : h.NameBelow m o := by
  by_cases hm : m = rootClass
  · subst hm
    rwa [eq_rootClass_of_nameBelow hmn] at hno
  by_cases ho : IsTop o
  · exact nameBelow_of_isTop hm ho
  -- nothing at the top is between two names
  have hn : ¬ IsTop n := fun hn => ho (hno.isTop hn)
  have hmt : ¬ IsTop m := fun hm => hn (hmn.isTop hm)
  rcases hmn with rfl | hroot | ⟨hser, -⟩ | ⟨-, -, c, hc, d, hd, rfl, rfl, hcd⟩
  · exact hno
  · exact absurd (Or.inl hroot) hn
  · exact absurd (Or.inr hser) hn
  rcases hno with rfl | hroot | ⟨hser, -⟩ | ⟨-, -, d', hd', e, he, hdd, rfl, hde⟩
  · exact Or.inr (Or.inr (Or.inr ⟨hmt, hn, c, hc, d, hd, rfl, rfl, hcd⟩))
  · exact absurd (Or.inl hroot) ho
  · exact absurd (Or.inr hser) ho
  · obtain rfl := eq_of_name_eq hd' hd hdd
    exact Or.inr (Or.inr (Or.inr ⟨hmt, ho, c, hc, e, he, rfl, rfl, hcd.trans hde⟩))

lemma NameBelow.antisymm (hacyclic : h.Acyclic) (hmn : h.NameBelow m n) (hnm : h.NameBelow n m) :
    m = n := by
  rcases hmn with rfl | rfl | ⟨rfl, hm⟩ | ⟨hm, hn, c, hc, d, hd, rfl, rfl, hcd⟩
  · rfl
  · exact eq_rootClass_of_nameBelow hnm
  · rcases hnm.isTop (Or.inr rfl) with hroot | hser
    · exact absurd hroot hm
    · exact hser
  · by_contra hne
    have hdc := (nameBelow_iff_derives hd hc (Ne.symm hne) hn hm).1 hnm
    exact hne (congrArg ClassDecl.name (hacyclic.eq_of_derives hc hcd hdc))

/-! ### Types -/

lemma Below.refl (ht : h.Known t) : h.Below t t := by
  induction ht with
  | object _ => exact Below.object (Or.inl rfl)
  | array _ ih => exact Below.array ih

lemma Below.trans (hst : h.Below s t) (htu : h.Below t u) : h.Below s u := by
  induction hst generalizing u with
  | object hmn =>
    cases htu with
    | object hno => exact Below.object (hmn.trans hno)
  | arrayTop hn =>
    cases htu with
    | object hno => exact Below.arrayTop (hno.isTop hn)
  | array _ ih =>
    cases htu with
    | arrayTop hn => exact Below.arrayTop hn
    | array htu => exact Below.array (ih htu)

lemma Below.antisymm (hacyclic : h.Acyclic) (hst : h.Below s t) (hts : h.Below t s) : s = t := by
  induction hst with
  | object hmn =>
    cases hts with
    | object hnm => exact congrArg Ty.object (hmn.antisymm hacyclic hnm)
  | arrayTop hn => cases hts
  | array _ ih =>
    cases hts with
    | array hts => exact congrArg Ty.array (ih hts)

end Hierarchy

end CallTargets
