import CallTargets.Proofs.Hierarchy.Implementors
import CallTargets.Proofs.Hierarchy.Search

/-!
# Subclasses, superclass chains and implementors

The declarations of a hierarchy span a graph: a class has an edge to its superclass, and a class or interface has
edges to the interfaces that it names.  An edge counts only if it ends at a declaration.  The relations here are these
edges, and paths are their closures `Relation.TransGen` and `Relation.ReflTransGen`.

* `mem_chain_iff`: a superclass chain is what can be reached by superclass edges without a barrier.
* `mem_subclasses_iff`: the subclasses of a class are the other classes from which superclass edges lead to it.
* `mem_implementors_name_iff`: the implementors of a name, likewise; `mem_implementors_iff` if the name is declared.

The chain follows the edges and the other two search against them.  None of the three assumes that the graph has no
cycles.
-/

namespace CallTargets

namespace Hierarchy

/-! ### Edges -/

/-- `d` is declared, and `c` names it as its superclass. -/
def Extends (h : Hierarchy) (c d : ClassDecl) : Prop :=
  d ∈ h.classes ∧ c.superName = some d.name

/-- `d` is declared, and `c` is an interface that names it among its interfaces. -/
def Refines (h : Hierarchy) (c d : ClassDecl) : Prop :=
  d ∈ h.classes ∧ c.isInterface = true ∧ d.name ∈ c.interfaces

/-- `d` is declared, and `c` names it as its superclass or among its interfaces. -/
def Supertype (h : Hierarchy) (c d : ClassDecl) : Prop :=
  d ∈ h.classes ∧ (c.superName = some d.name ∨ d.name ∈ c.interfaces)

/-- `d` is `c` or one of its superclasses, met before any superclass that is the root class. -/
def InheritsFrom (h : Hierarchy) (c d : ClassDecl) : Prop :=
  Relation.ReflTransGen (fun c d => h.Extends c d ∧ d.name ≠ rootClass) c d

/-- `c` is a subclass of some class, or that class itself, that names the interface `i` or one that extends it. -/
def Implements (h : Hierarchy) (c i : ClassDecl) : Prop :=
  ∃ d ∈ h.classes, d.isInterface = false ∧ Relation.ReflTransGen h.Extends c d ∧
    ∃ j ∈ h.classes, j.name ∈ d.interfaces ∧ Relation.ReflTransGen h.Refines j i

/-- The name `n` is `m`, or it is declared and stands for an interface that extends `m`. -/
def Specializes (h : Hierarchy) (n m : ClassName) : Prop :=
  n = m ∨ ∃ c ∈ h.classes, c.name = n ∧
    ∃ d, Relation.ReflTransGen h.Refines c d ∧ d.isInterface = true ∧ m ∈ d.interfaces

/-- `c` is a subclass of some class, or that class itself, that names `name` or an interface that extends it.  The name
itself need not be declared. -/
def ImplementsName (h : Hierarchy) (c : ClassDecl) (name : ClassName) : Prop :=
  ∃ d ∈ h.classes, d.isInterface = false ∧ Relation.ReflTransGen h.Extends c d ∧
    ∃ n ∈ d.interfaces, h.Specializes n name

/-- The edges fit the kinds of the declarations: what is declared and implemented is an interface, and what is declared
and extended is a class. -/
structure Kinded (h : Hierarchy) : Prop where
  implemented : ∀ c ∈ h.classes, ∀ d ∈ h.classes, d.name ∈ c.interfaces → d.isInterface = true
  extended : ∀ c ∈ h.classes, ∀ d ∈ h.classes, c.superName = some d.name → d.isInterface = false

variable {h : Hierarchy} {c d e : ClassDecl} {name : ClassName}

lemma Extends.unique (hd : h.Extends c d) (he : h.Extends c e) : d = e :=
  eq_of_name_eq hd.1 he.1 (Option.some.inj (hd.2.symm.trans he.2))

lemma Extends.supertype (hcd : h.Extends c d) : h.Supertype c d := ⟨hcd.1, Or.inl hcd.2⟩

lemma extends_of_find? (hname : c.superName = some name) (hf : h.find? name = some d) :
    h.Extends c d := by
  obtain ⟨hd, rfl⟩ := find?_eq_some_iff.1 hf
  exact ⟨hd, hname⟩

/-! ### Superclass chains -/

section Chain

variable {barrier : ClassName → Bool}

/-- Induction along the superclasses of a class, with one case for each reason why a chain may end. -/
lemma ancestors_induction {motive : ClassDecl → List ClassName → List ClassDecl × ChainEnd → Prop}
    (top : ∀ c seen, c.superName = none → motive c seen ([], .top))
    (missing : ∀ c seen name, c.superName = some name → h.find? name = none →
      motive c seen ([], .missing name))
    (barred : ∀ c seen d, h.Extends c d → barrier d.name = true → motive c seen ([], .top))
    (cycle : ∀ c seen d, h.Extends c d → barrier d.name = false → d.name ∈ seen →
      motive c seen ([], .cycle))
    (parent : ∀ c seen d above reason, h.Extends c d → barrier d.name = false → d.name ∉ seen →
      motive d (d.name :: seen) (above, reason) → motive c seen (d :: above, reason))
    (c : ClassDecl) (seen : List ClassName) : motive c seen (h.ancestors barrier c seen) := by
  induction c, seen using ancestors.induct h barrier with
  | case1 c seen hsup =>
    rw [ancestors, hsup]
    exact top c seen hsup
  | case2 c seen name hsup hf =>
    rw [ancestors, hsup]
    dsimp only
    split
    · exact missing c seen name hsup hf
    · rename_i d hd
      exact absurd (hf.symm.trans hd) (by simp)
  | case3 c seen name hsup d hf hb =>
    rw [ancestors, hsup]
    have hcd := extends_of_find? hsup hf
    obtain rfl : d.name = name := name_of_find?_eq_some hf
    dsimp only
    split
    · rename_i hd
      exact absurd (hf.symm.trans hd) (by simp)
    · rw [if_pos hb]
      exact barred c seen d hcd hb
  | case4 c seen name hsup d hf hb hs =>
    rw [ancestors, hsup]
    have hcd := extends_of_find? hsup hf
    obtain rfl : d.name = name := name_of_find?_eq_some hf
    dsimp only
    split
    · rename_i hd
      exact absurd (hf.symm.trans hd) (by simp)
    · rw [if_neg hb, dif_pos hs]
      exact cycle c seen d hcd (by simpa using hb) (by simpa using hs)
  | case5 c seen name hsup d hf hb hs _ above reason habove ih =>
    rw [ancestors, hsup]
    have hcd := extends_of_find? hsup hf
    obtain rfl : d.name = name := name_of_find?_eq_some hf
    dsimp only
    split
    · rename_i hd
      exact absurd (hf.symm.trans hd) (by simp)
    · rename_i d' hd
      obtain rfl : d = d' := Option.some.inj (hf.symm.trans hd)
      rw [if_neg hb, dif_neg hs]
      rw [habove] at ih ⊢
      exact parent c seen d above reason hcd (by simpa using hb) (by simpa using hs) ih

/-- Every class on the chain is reached by superclass edges. -/
private lemma ancestors_sound (c : ClassDecl) (seen : List ClassName) :
    ∀ d ∈ (h.ancestors barrier c seen).1,
      Relation.TransGen (fun c d => h.Extends c d ∧ barrier d.name = false) c d := by
  refine ancestors_induction (h := h) (motive := fun c _ r => ∀ d ∈ r.1,
    Relation.TransGen (fun c d => h.Extends c d ∧ barrier d.name = false) c d)
    ?_ ?_ ?_ ?_ ?_ c seen
  · intro c seen _ d hd
    exact absurd hd (by simp)
  · intro c seen name _ _ d hd
    exact absurd hd (by simp)
  · intro c seen e _ _ d hd
    exact absurd hd (by simp)
  · intro c seen e _ _ _ d hd
    exact absurd hd (by simp)
  · intro c seen e above reason hce hb _ ih d hd
    have hstep : Relation.TransGen (fun c d => h.Extends c d ∧ barrier d.name = false) c e :=
      Relation.TransGen.single ⟨hce, hb⟩
    rcases List.mem_cons.1 hd with rfl | hd
    · exact hstep
    · exact hstep.trans (ih d hd)

/-- The chain is closed under superclass edges, but for the names that were on it from the start. -/
private lemma ancestors_closed (c : ClassDecl) (seen : List ClassName) :
    ∀ d ∈ c :: (h.ancestors barrier c seen).1, ∀ e, h.Extends d e → barrier e.name = false →
      e ∈ (h.ancestors barrier c seen).1 ∨ e.name ∈ seen := by
  refine ancestors_induction (h := h) (motive := fun c seen r => ∀ d ∈ c :: r.1, ∀ e,
    h.Extends d e → barrier e.name = false → e ∈ r.1 ∨ e.name ∈ seen) ?_ ?_ ?_ ?_ ?_ c seen
  · intro c seen hsup d hd e hde _
    obtain rfl : d = c := by simpa using hd
    exact absurd (hsup.symm.trans hde.2) (by simp)
  · intro c seen name hsup hf d hd e hde _
    obtain rfl : d = c := by simpa using hd
    obtain rfl : e.name = name := Option.some.inj (hde.2.symm.trans hsup)
    exact absurd ((find?_name hde.1).symm.trans hf) (by simp)
  · intro c seen p hcp hb d hd e hde hbe
    obtain rfl : d = c := by simpa using hd
    rw [hcp.unique hde, hbe] at hb
    exact absurd hb (by simp)
  · intro c seen p hcp _ hs d hd e hde _
    obtain rfl : d = c := by simpa using hd
    exact Or.inr (hcp.unique hde ▸ hs)
  · intro c seen p above reason hcp _ _ ih d hd e hde hbe
    rcases List.mem_cons.1 hd with rfl | hd
    · exact Or.inl (by simp [hcp.unique hde])
    · rcases ih d hd e hde hbe with he | he
      · exact Or.inl (List.mem_cons_of_mem _ he)
      · rcases List.mem_cons.1 he with hep | he
        · exact Or.inl (by simp [eq_of_name_eq hde.1 hcp.1 hep])
        · exact Or.inr he

/-- **A superclass chain** holds the class itself and all that can be reached by superclass edges without a barrier. -/
lemma mem_chain_iff (hc : c ∈ h.classes) :
    d ∈ (h.chain barrier c).1 ↔
      Relation.ReflTransGen (fun c d => h.Extends c d ∧ barrier d.name = false) c d := by
  have hchain : (h.chain barrier c).1 = c :: (h.ancestors barrier c [c.name]).1 := rfl
  rw [hchain]
  constructor
  · intro hd
    rcases List.mem_cons.1 hd with rfl | hd
    · exact Relation.ReflTransGen.refl
    · exact (ancestors_sound c [c.name] d hd).to_reflTransGen
  · intro hcd
    induction hcd with
    | refl => exact List.mem_cons_self
    | @tail d e _ hde ih =>
      rcases ancestors_closed c [c.name] d ih e hde.1 hde.2 with he | he
      · exact List.mem_cons_of_mem _ he
      · obtain rfl : e = c := eq_of_name_eq hde.1.1 hc (by simpa using he)
        exact List.mem_cons_self

lemma mem_chain_rootClass_iff (hc : c ∈ h.classes) :
    d ∈ (h.chain (· == rootClass) c).1 ↔ h.InheritsFrom c d := by
  rw [mem_chain_iff hc, InheritsFrom]
  simp only [beq_eq_false_iff_ne]

end Chain

/-! ### Walks against the edges -/

/-- Subclass edges from a declared name lead to declared names. -/
lemma exists_extends_of_hasEdge {n : ClassName} (hd : d ∈ h.classes)
    (hpath : Relation.ReflTransGen h.edges.subclasses.HasEdge d.name n) :
    ∃ c ∈ h.classes, c.name = n ∧ Relation.ReflTransGen h.Extends c d := by
  induction hpath with
  | refl => exact ⟨d, hd, rfl, .refl⟩
  | @tail p n _ hpn ih =>
    obtain ⟨e, he, rfl, hed⟩ := ih
    obtain ⟨c, hc, hsup, rfl⟩ := mem_directSubclasses_iff.1 hpn
    exact ⟨c, hc, rfl, Relation.ReflTransGen.head ⟨he, hsup⟩ hed⟩

/-- The subclass edges are the superclass edges, taken backwards. -/
lemma reflTransGen_hasEdge_iff (hc : c ∈ h.classes) (hd : d ∈ h.classes) :
    Relation.ReflTransGen h.edges.subclasses.HasEdge d.name c.name ↔
      Relation.ReflTransGen h.Extends c d := by
  constructor
  · intro hpath
    obtain ⟨e, he, hname, hed⟩ := exists_extends_of_hasEdge hd hpath
    rwa [eq_of_name_eq hc he hname.symm]
  · intro hcd
    induction hcd using Relation.ReflTransGen.head_induction_on with
    | refl => exact .refl
    | @head c e hce _ ih => exact (ih hce.1).tail (mem_directSubclasses_iff.2 ⟨c, hc, hce.2, rfl⟩)

/-- **The subclasses of a class** are the other classes from which superclass edges lead to it. -/
lemma mem_subclasses_iff (hd : d ∈ h.classes) :
    c ∈ h.subclasses d.name ↔ c ∈ h.classes ∧ c ≠ d ∧ Relation.TransGen h.Extends c d := by
  rw [subclasses, mem_select_iff]
  refine and_congr_right fun hc => ?_
  rw [mem_subclassNames_iff, reflTransGen_hasEdge_iff hc hd, Relation.reflTransGen_iff_eq_or_transGen]
  have hne : c.name ≠ d.name ↔ c ≠ d := not_congr ⟨eq_of_name_eq hc hd, congrArg ClassDecl.name⟩
  rw [hne]
  exact and_congr_right fun hcd => or_iff_right hcd.symm

/-- The interfaces that the queue comes to are those that extend the first one. -/
lemma reflTransGen_refinedBy_iff {m n : ClassName} :
    Relation.ReflTransGen h.RefinedBy m n ↔ h.Specializes n m := by
  constructor
  · intro hpath
    induction hpath with
    | refl => exact Or.inl rfl
    | @tail p n _ hpn ih =>
      obtain ⟨c, hc, hint, hpc, rfl⟩ := hpn
      rcases ih with rfl | ⟨e, he, rfl, d, hed, hd⟩
      · exact Or.inr ⟨c, hc, rfl, c, .refl, hint, hpc⟩
      · exact Or.inr ⟨c, hc, rfl, d, Relation.ReflTransGen.head ⟨he, hint, hpc⟩ hed, hd⟩
  · rintro (rfl | ⟨c, hc, rfl, d, hcd, hint, hmd⟩)
    · exact .refl
    · induction hcd using Relation.ReflTransGen.head_induction_on with
      | refl => exact .single ⟨d, hc, hint, hmd, rfl⟩
      | @head c e hce _ ih => exact (ih hce.1).tail ⟨c, hc, hce.2.1, hce.2.2, rfl⟩

/-- **The implementors of a name**, declared or not, are the classes that implement it through any number of edges of
both kinds. -/
lemma mem_implementors_name_iff :
    c ∈ h.implementors name ↔ c ∈ h.classes ∧ c.isInterface = false ∧ h.ImplementsName c name := by
  rw [implementors, List.mem_filter, mem_select_iff, and_assoc]
  refine and_congr_right fun hc => ?_
  rw [mem_implementorNames_iff, and_comm]
  refine and_congr (by simp) ?_
  constructor
  · rintro ⟨n, hn, d, hd, hcls, hnd, hpath⟩
    exact ⟨d, hd, hcls, (reflTransGen_hasEdge_iff hc hd).1 hpath, n, hnd, reflTransGen_refinedBy_iff.1 hn⟩
  · rintro ⟨d, hd, hcls, hcd, n, hnd, hn⟩
    exact ⟨n, reflTransGen_refinedBy_iff.2 hn, d, hd, hcls, hnd, (reflTransGen_hasEdge_iff hc hd).2 hcd⟩

/-- An interface that is declared is implemented by declaration and by name. -/
lemma implements_iff_implementsName (hd : d ∈ h.classes) :
    h.Implements c d ↔ h.ImplementsName c d.name := by
  refine exists_congr fun e => and_congr_right fun _ => and_congr_right fun _ =>
    and_congr_right fun _ => ?_
  constructor
  · rintro ⟨j, hj, hje, hjd⟩
    refine ⟨j.name, hje, ?_⟩
    -- a path that is not empty ends with an edge to `d`
    rcases Relation.ReflTransGen.cases_tail hjd with rfl | ⟨k, hjk, hkd⟩
    · exact Or.inl rfl
    · exact Or.inr ⟨j, hj, rfl, k, hjk, hkd.2⟩
  · rintro ⟨n, hne, rfl | ⟨j, hj, rfl, k, hjk, hk⟩⟩
    · exact ⟨d, hd, hne, Relation.ReflTransGen.refl⟩
    · exact ⟨j, hj, hne, hjk.tail ⟨hd, hk⟩⟩

/-- **The implementors of an interface** are the classes that implement it through any number of edges of both kinds. -/
lemma mem_implementors_iff (hd : d ∈ h.classes) :
    c ∈ h.implementors d.name ↔ c ∈ h.classes ∧ c.isInterface = false ∧ h.Implements c d := by
  rw [mem_implementors_name_iff, implements_iff_implementsName hd]

lemma ascending_subclasses (h : Hierarchy) (name : ClassName) : Ascending (h.subclasses name) :=
  ascending_select h _

lemma ascending_implementors (h : Hierarchy) (name : ClassName) : Ascending (h.implementors name) :=
  (ascending_select h _).filter _

end Hierarchy

end CallTargets
