import CallTargets.Proofs.Merge.Grouping

/-!
# Merging classes whose superclasses are missing

Two classes are merged by a walk up the superclasses of the first one and, if the second one is not among them, by a walk
up the superclasses of the second one.  A walk fails where it meets a superclass that is not declared, and that failure
ends the merge.  A lenient merge does not tolerate it, and it comes up even if the other walk would settle the question.

* `Hierarchy.BreaksOff`: the superclasses of a class lead to one that is not declared.
* `Hierarchy.Stranded`: the walks for two types end in this way.
* `lenient_merge_not_found_iff`: this is the only reason for which a lenient merge misses a class.
* `merge_with_subclass`: a class and its superclass are merged into the class, but with the superclass first only if the
  superclasses of that one are declared.
* `lenient_merge_misses_superclass` and `subclass_loses_to_missing_superclass` are two small cases in which a merge fails.
-/

namespace CallTargets

namespace Hierarchy

variable {h : Hierarchy} {c d : ClassDecl} {name : ClassName} {lenient : Bool} {s t : Ty}

/-! ### Where a walk ends -/

/-- The superclasses of `c` lead to a class that names `name` as its superclass, and `name` is not declared. -/
def BreaksOff (h : Hierarchy) (c : ClassDecl) (name : ClassName) : Prop :=
  ∃ d, Relation.ReflTransGen h.Extends c d ∧ d.superName = some name ∧ h.find? name = none

/-- A class with a declared superclass has no missing one. -/
lemma Extends.find?_ne_none (hcd : h.Extends c d) (hsup : c.superName = some name) :
    h.find? name ≠ none := by
  obtain rfl : d.name = name := Option.some.inj (hcd.2.symm.trans hsup)
  simp [find?_name hcd.1]

/-- A chain ends at a missing name exactly if a class on it names that one as its superclass. -/
lemma ancestors_missing_iff {barrier : ClassName → Bool} (c : ClassDecl) (seen : List ClassName) :
    (h.ancestors barrier c seen).2 = .missing name ↔
      ∃ d ∈ c :: (h.ancestors barrier c seen).1, d.superName = some name ∧ h.find? name = none := by
  -- where the next superclass is declared, the class at hand is not the one that names the missing superclass
  have hdeclared : ∀ c e, h.Extends c e → ∀ reason : ChainEnd, reason ≠ .missing name →
      (reason = .missing name ↔ ∃ d ∈ [c], d.superName = some name ∧ h.find? name = none) := by
    intro c e hce reason hreason
    refine iff_of_false hreason ?_
    rintro ⟨d, hd, hsup, hmissing⟩
    obtain rfl : d = c := List.mem_singleton.1 hd
    exact hce.find?_ne_none hsup hmissing
  refine ancestors_induction (h := h) (motive := fun c _ r => r.2 = .missing name ↔
    ∃ d ∈ c :: r.1, d.superName = some name ∧ h.find? name = none) ?_ ?_ ?_ ?_ ?_ c seen
  · intro c seen hsup
    simp [hsup]
  · intro c seen name' hsup hf
    constructor
    · intro heq
      obtain rfl : name' = name := ChainEnd.missing.inj heq
      exact ⟨c, List.mem_singleton_self c, hsup, hf⟩
    · rintro ⟨d, hd, hdsup, -⟩
      obtain rfl : d = c := List.mem_singleton.1 hd
      exact congrArg ChainEnd.missing (Option.some.inj (hsup.symm.trans hdsup))
  · intro c seen e hce _
    exact hdeclared c e hce .top (by simp)
  · intro c seen e hce _ _
    exact hdeclared c e hce .cycle (by simp)
  · intro c seen e above reason hce _ _ ih
    refine ih.trans ⟨?_, ?_⟩
    · rintro ⟨d, hd, hmissing⟩
      exact ⟨d, List.mem_cons_of_mem _ hd, hmissing⟩
    · rintro ⟨d, hd, hsup, hmissing⟩
      rcases List.mem_cons.1 hd with rfl | hd
      · exact absurd hmissing (hce.find?_ne_none hsup)
      · exact ⟨d, hd, hsup, hmissing⟩

lemma chain_missing_iff (hc : c ∈ h.classes) :
    (h.chain (fun _ => false) c).2 = .missing name ↔ h.BreaksOff c name := by
  refine (ancestors_missing_iff c [c.name]).trans (exists_congr fun d => and_congr_left fun _ => ?_)
  exact mem_full_chain_iff hc

/-! ### The walk for one class -/

lemma outcome_extendsClass_of_extends (hc : c ∈ h.classes) (hd : d ∈ h.classes)
    (hcd : Relation.ReflTransGen h.Extends c d) :
    (h.extendsClass c d.name).outcome.value = .ok true := by
  rw [extendsClass]
  dsimp only
  rw [if_pos ((any_chain_eq_true_iff hc hd).2 hcd)]
  rfl

lemma outcome_extendsClass_of_breaksOff (hc : c ∈ h.classes) (hd : d ∈ h.classes)
    (hcd : ¬ Relation.ReflTransGen h.Extends c d) (hbreaks : h.BreaksOff c name) :
    (h.extendsClass c d.name).outcome.value = .error (.classNotFound name) := by
  rw [extendsClass]
  dsimp only
  rw [if_neg (mt (any_chain_eq_true_iff hc hd).1 hcd), (chain_missing_iff hc).2 hbreaks]
  rfl

lemma outcome_extendsClass_of_ends (hc : c ∈ h.classes) (hd : d ∈ h.classes)
    (hcd : ¬ Relation.ReflTransGen h.Extends c d) (hends : ∀ name, ¬ h.BreaksOff c name) :
    (h.extendsClass c d.name).outcome.value = .ok false := by
  rw [extendsClass]
  dsimp only
  rw [if_neg (mt (any_chain_eq_true_iff hc hd).1 hcd)]
  cases hreason : (h.chain (fun _ => false) c).2 with
  | top => rfl
  | missing name => exact absurd ((chain_missing_iff hc).1 hreason) (hends name)
  | cycle => rfl

/-- A walk misses a class exactly if it breaks off there before it meets what it looks for. -/
lemma extendsClass_not_found_iff (hc : c ∈ h.classes) (hd : d ∈ h.classes) (name : ClassName) :
    (h.extendsClass c d.name).outcome.value = .error (.classNotFound name) ↔
      ¬ Relation.ReflTransGen h.Extends c d ∧ h.BreaksOff c name := by
  refine ⟨fun herr => ?_, fun hbreaks => outcome_extendsClass_of_breaksOff hc hd hbreaks.1 hbreaks.2⟩
  have hcd : ¬ Relation.ReflTransGen h.Extends c d := by
    intro hcd
    rw [outcome_extendsClass_of_extends hc hd hcd] at herr
    cases herr
  refine ⟨hcd, ?_⟩
  by_cases hbreaks : ∃ m, h.BreaksOff c m
  · obtain ⟨m, hm⟩ := hbreaks
    rw [outcome_extendsClass_of_breaksOff hc hd hcd hm] at herr
    obtain rfl : m = name := Failure.classNotFound.inj (Except.error.inj herr)
    exact hm
  · rw [outcome_extendsClass_of_ends hc hd hcd fun m hm => hbreaks ⟨m, hm⟩] at herr
    cases herr

/-! ### Both walks -/

/-- The walks for `c` and `d` miss the class `name`: the first one breaks off before `d`, or it ends without `d` and the
second one breaks off before `c`. -/
def Undecided (h : Hierarchy) (c d : ClassDecl) (name : ClassName) : Prop :=
  ¬ Relation.ReflTransGen h.Extends c d ∧
    (h.BreaksOff c name ∨
      (∀ m, ¬ h.BreaksOff c m) ∧ ¬ Relation.ReflTransGen h.Extends d c ∧ h.BreaksOff d name)

/-- Two classes are merged by one walk after the other. -/
lemma outcome_mergeDeclared_walks (hci : c.isInterface = false) (hdi : d.isInterface = false) :
    (h.mergeDeclared c d).outcome.value =
      (h.extendsClass c d.name).outcome.value.bind fun p =>
        if p then .ok (.object c.name)
        else (h.extendsClass d c.name).outcome.value.bind fun q =>
          if q then .ok (.object d.name)
          else .error (.incompatible .unrelatedClasses (.object c.name) (.object d.name)) := by
  simp only [mergeDeclared, hci, hdi]
  rw [Attempt.value_outcome_bind]
  congr 1
  funext p
  cases p with
  | true => rfl
  | false =>
    rw [if_neg (by simp), if_neg (by simp), Attempt.value_outcome_bind]
    congr 1
    funext q
    cases q <;> rfl

lemma mergeDeclared_classes_not_found_iff (hc : c ∈ h.classes) (hd : d ∈ h.classes)
    (hci : c.isInterface = false) (hdi : d.isInterface = false) :
    (h.mergeDeclared c d).outcome.value = .error (.classNotFound name) ↔ h.Undecided c d name := by
  have hfirst := extendsClass_not_found_iff hc hd name
  have hsecond := extendsClass_not_found_iff hd hc name
  rw [outcome_mergeDeclared_walks hci hdi]
  cases hp : (h.extendsClass c d.name).outcome.value with
  | error e =>
    rw [hp, Except.error.injEq] at hfirst
    change Except.error e = .error (.classNotFound name) ↔ _
    rw [Except.error.injEq, hfirst]
    refine ⟨fun hbreaks => ⟨hbreaks.1, Or.inl hbreaks.2⟩, ?_⟩
    rintro ⟨hcd, hbreaks | ⟨hends, -⟩⟩
    · exact ⟨hcd, hbreaks⟩
    · exact absurd (hp.symm.trans (outcome_extendsClass_of_ends hc hd hcd hends)) (by simp)
  | ok p =>
    have hfound := extendsClass_found_iff hc hd hp
    cases p with
    | true =>
      refine iff_of_false (fun herr => ?_) fun hun => hun.1 (hfound.1 rfl)
      cases herr
    | false =>
      have hcd : ¬ Relation.ReflTransGen h.Extends c d := fun hcd => absurd (hfound.2 hcd) (by simp)
      have hends : ∀ m, ¬ h.BreaksOff c m := fun m hm =>
        absurd (hp.symm.trans (outcome_extendsClass_of_breaksOff hc hd hcd hm)) (by simp)
      have hun : h.Undecided c d name ↔
          ¬ Relation.ReflTransGen h.Extends d c ∧ h.BreaksOff d name := by
        simp [Undecided, hcd, hends]
      rw [hun, ← hsecond]
      cases (h.extendsClass d c.name).outcome.value with
      | error e =>
        change Except.error e = .error (.classNotFound name) ↔ _
        rw [Except.error.injEq, Except.error.injEq]
      | ok q =>
        refine iff_of_false (fun herr => ?_) fun herr => ?_
        · cases q <;> cases herr
        · cases herr

/-- An interface is looked for by a search that no missing name stops. -/
lemma mergeDeclared_not_found_iff (hc : c ∈ h.classes) (hd : d ∈ h.classes) :
    (h.mergeDeclared c d).outcome.value = .error (.classNotFound name) ↔
      c.isInterface = false ∧ d.isInterface = false ∧ h.Undecided c d name := by
  cases hci : c.isInterface with
  | true =>
    refine iff_of_false ?_ (by simp)
    cases hdi : d.isInterface with
    | true =>
      rw [outcome_mergeDeclared_interfaces hci hdi]
      split
      · simp
      · split <;> simp
    | false =>
      rw [outcome_mergeDeclared_interface_class hci hdi]
      split <;> simp
  | false =>
    cases hdi : d.isInterface with
    | true =>
      refine iff_of_false ?_ (by simp)
      rw [outcome_mergeDeclared_class_interface hci hdi]
      split <;> simp
    | false =>
      rw [mergeDeclared_classes_not_found_iff hc hd hci hdi]
      simp

/-! ### Lenient merges -/

/-- The innermost classes of two types of the same dimension are declared, and the walks for them miss the class `name`. -/
inductive Stranded (h : Hierarchy) (name : ClassName) : Ty → Ty → Prop
  | object {c d : ClassDecl} : c ∈ h.classes → d ∈ h.classes → c.isInterface = false →
    d.isInterface = false → ¬ IsTop c.name → ¬ IsTop d.name → h.Undecided c d name →
    h.Stranded name (.object c.name) (.object d.name)
  | array {s t : Ty} : h.Stranded name s t → h.Stranded name (.array s) (.array t)

/-- Two declared classes of different names. -/
lemma mergeClasses_declared (hc : c ∈ h.classes) (hd : d ∈ h.classes) (hne : c ≠ d) :
    h.mergeClasses lenient c.name d.name = h.mergeDeclared c d := by
  have hname : c.name ≠ d.name := fun hname => hne (eq_of_name_eq hc hd hname)
  simp only [mergeClasses, find?_name hc, find?_name hd, if_neg hname]

/-- A class that is not declared itself is tolerated, so that the missing class is one of the superclasses. -/
lemma stranded_of_mergeClasses {m n : ClassName} (hm : ¬ IsTop m) (hn : ¬ IsTop n)
    (herr : (h.mergeClasses true m n).outcome.value = .error (.classNotFound name)) :
    h.Stranded name (.object m) (.object n) := by
  rw [mergeClasses] at herr
  cases hcf : h.find? m with
  | none =>
    rw [hcf] at herr
    cases herr
  | some c =>
    cases hdf : h.find? n with
    | none =>
      rw [hcf, hdf] at herr
      cases herr
    | some d =>
      obtain ⟨hc, rfl⟩ := find?_eq_some_iff.1 hcf
      obtain ⟨hd, rfl⟩ := find?_eq_some_iff.1 hdf
      rw [hcf, hdf] at herr
      dsimp only at herr
      split at herr
      · cases herr
      · obtain ⟨hci, hdi, hun⟩ := (mergeDeclared_not_found_iff hc hd).1 herr
        exact Stranded.object hc hd hci hdi hm hn hun

/-- The cases are the rules of the merge in their order; only the last two walk up a hierarchy. -/
lemma stranded_of_mergeErased
    (herr : (h.mergeErased true s t).outcome.value = .error (.classNotFound name)) :
    h.Stranded name s t := by
  fun_induction h.mergeErased true s t with
  | case9 s t _ _ _ _ _ _ _ _ ih =>
    cases hst : (h.mergeErased true s t).outcome.value with
    | ok u =>
      rw [Attempt.value_outcome_bind_of_ok hst] at herr
      cases herr
    | error e =>
      rw [Attempt.value_outcome_bind_of_error hst] at herr
      exact Stranded.array (ih (hst.trans herr))
  | case10 m n _ hmr hms _ hnr hns =>
    simp only [className?_eq_some_iff, Ty.object.injEq] at hmr hnr hms hns
    exact stranded_of_mergeClasses (not_or.2 ⟨hmr, hms⟩) (not_or.2 ⟨hnr, hns⟩) herr
  | _ => cases herr

lemma Stranded.mergeErased_eq (hstranded : h.Stranded name s t) :
    (h.mergeErased lenient s t).outcome.value = .error (.classNotFound name) := by
  induction hstranded with
  | @object c d hc hd hci hdi hctop hdtop hun =>
    have hne : c ≠ d := by
      rintro rfl
      exact hun.1 Relation.ReflTransGen.refl
    rw [mergeErased_objects hctop hdtop, mergeClasses_declared hc hd hne]
    exact (mergeDeclared_not_found_iff hc hd).2 ⟨hci, hdi, hun⟩
  | array _ ih =>
    rw [mergeErased_arrays, Attempt.value_outcome_bind_of_error ih]

/-- **A lenient merge misses a class** exactly if both classes are declared and the walks up their superclasses break off
before they settle which of them is below the other. -/
theorem lenient_merge_not_found_iff (h : Hierarchy) (a b : Ty) (name : ClassName) :
    (h.merge true a b).outcome.value = .error (.classNotFound name) ↔
      h.Stranded name a.erased b.erased :=
  ⟨stranded_of_mergeErased, Stranded.mergeErased_eq⟩

/-! ### A class and its superclass -/

/-- No class is among its own superclasses. -/
def SuperclassesAcyclic (h : Hierarchy) : Prop := ∀ c ∈ h.classes, ¬ Relation.TransGen h.Extends c c

lemma Acyclic.superclasses (hacyclic : h.Acyclic) : h.SuperclassesAcyclic := fun c hc hcycle =>
  hacyclic c hc (Relation.TransGen.mono (fun _ _ => Extends.supertype) _ _ hcycle)

lemma SuperclassesAcyclic.not_extends (hacyclic : h.SuperclassesAcyclic) (hd : d ∈ h.classes) (hne : c ≠ d)
    (hdc : Relation.ReflTransGen h.Extends d c) : ¬ Relation.ReflTransGen h.Extends c d := by
  intro hcd
  have hstep : Relation.TransGen h.Extends d c :=
    (Relation.reflTransGen_iff_eq_or_transGen.1 hdc).resolve_left hne
  exact hacyclic d hd (hstep.trans_left hcd)

/-- Two classes below the top. -/
lemma merge_objects (hc : c ∈ h.classes) (hd : d ∈ h.classes) (hctop : ¬ IsTop c.name)
    (hdtop : ¬ IsTop d.name) (hne : c ≠ d) :
    h.merge lenient (.object c.name) (.object d.name) = h.mergeDeclared c d := by
  change h.mergeErased lenient (.object c.name) (.object d.name) = _
  rw [mergeErased_objects hctop hdtop, mergeClasses_declared hc hd hne]

/-- **A class and its superclass** are merged into the class if it comes first.  If the superclass `a` comes first, its
superclasses are walked up in vain, and the merge fails if they break off. -/
theorem merge_with_subclass (h : Hierarchy) (hacyclic : h.SuperclassesAcyclic) (lenient : Bool)
    (a b : ClassDecl) (ha : a ∈ h.classes) (hb : b ∈ h.classes) (hai : a.isInterface = false)
    (hbi : b.isInterface = false) (hatop : ¬ IsTop a.name) (hbtop : ¬ IsTop b.name) (hne : a ≠ b)
    (hba : Relation.ReflTransGen h.Extends b a) :
    (h.merge lenient (.object b.name) (.object a.name)).outcome.value = .ok (.object b.name) ∧
      ((h.merge lenient (.object a.name) (.object b.name)).outcome.value = .ok (.object b.name) ↔
        ∀ name, ¬ h.BreaksOff a name) ∧
      ∀ name, (h.merge lenient (.object a.name) (.object b.name)).outcome.value =
        .error (.classNotFound name) ↔ h.BreaksOff a name := by
  have hab : ¬ Relation.ReflTransGen h.Extends a b := hacyclic.not_extends hb hne hba
  have hfound := outcome_extendsClass_of_extends hb ha hba
  rw [merge_objects hb ha hbtop hatop hne.symm, merge_objects ha hb hatop hbtop hne]
  have hmissing : ∀ name, (h.mergeDeclared a b).outcome.value = .error (.classNotFound name) ↔
      h.BreaksOff a name := by
    intro name
    rw [mergeDeclared_classes_not_found_iff ha hb hai hbi]
    simp [Undecided, hab, hba]
  refine ⟨?_, ⟨fun hok name hbreaks => ?_, fun hends => ?_⟩, hmissing⟩
  · rw [outcome_mergeDeclared_walks hbi hai, hfound]
    rfl
  · exact absurd (hok.symm.trans ((hmissing name).2 hbreaks)) (by simp)
  · rw [outcome_mergeDeclared_walks hai hbi, outcome_extendsClass_of_ends ha hb hab hends, hfound]
    rfl

/-! ### Two families -/

/-- A class whose superclass is not declared. -/
def orphan : ClassDecl := ⟨"a.Orphan", 0, some "a.Gone", [], .topLevel, []⟩

/-- Its subclass. -/
def child : ClassDecl := ⟨"a.Child", 0, some "a.Orphan", [], .topLevel, []⟩

/-- A class without a superclass. -/
def elder : ClassDecl := ⟨"a.Elder", 0, none, [], .topLevel, []⟩

/-- Its subclass. -/
def heir : ClassDecl := ⟨"a.Heir", 0, some "a.Elder", [], .topLevel, []⟩

/-- Two classes with a subclass each, one of them with a superclass that is missing. -/
def families : Hierarchy := (ofList [orphan, child, elder, heir]).value

lemma families_acyclic : families.SuperclassesAcyclic :=
  (acyclic_of_rank (fun name => if name = "a.Child" ∨ name = "a.Heir" then 1 else 0) (by decide)).superclasses

/-- No other class is among the superclasses of the orphan, so that its walk breaks off. -/
lemma stranded_orphan (hd : d ∈ families.classes) (hdi : d.isInterface = false) (hdtop : ¬ IsTop d.name)
    (hne : d ≠ orphan) : families.Stranded "a.Gone" (.object orphan.name) (.object d.name) := by
  have hgone : families.find? "a.Gone" = none := by decide
  refine Stranded.object (by decide) hd (by decide) hdi (by decide) hdtop ⟨fun hpath => ?_, Or.inl ?_⟩
  · rcases Relation.ReflTransGen.cases_head hpath with heq | ⟨e, hstep, -⟩
    · exact hne heq.symm
    · exact hstep.find?_ne_none rfl hgone
  · exact ⟨orphan, Relation.ReflTransGen.refl, rfl, hgone⟩

lemma elder_ends (name : ClassName) : ¬ families.BreaksOff elder name := by
  rintro ⟨d, hpath, hsup, -⟩
  rcases Relation.ReflTransGen.cases_head hpath with rfl | ⟨e, hstep, -⟩
  · cases hsup
  · cases hstep.2

/-- A lenient merge fails since a superclass is missing, although both of its classes are declared. -/
theorem lenient_merge_misses_superclass :
    (families.merge true (.object "a.Orphan") (.object "a.Elder")).outcome.value =
      .error (.classNotFound "a.Gone") := by
  have helder := stranded_orphan (d := elder) (by decide) (by decide) (by decide) (by decide)
  exact helder.mergeErased_eq

/-- The subclass does not win if its superclass comes first and the superclass of that one is missing. -/
theorem subclass_loses_to_missing_superclass :
    families.SuperclassesAcyclic ∧ orphan ∈ families.classes ∧ child ∈ families.classes ∧
      orphan.isInterface = false ∧ child.isInterface = false ∧ ¬ IsTop orphan.name ∧
      ¬ IsTop child.name ∧ orphan ≠ child ∧ Relation.ReflTransGen families.Extends child orphan ∧
      ∀ lenient, (families.merge lenient (.object "a.Orphan") (.object "a.Child")).outcome.value =
        .error (.classNotFound "a.Gone") := by
  refine ⟨families_acyclic, by decide, by decide, by decide, by decide, by decide, by decide, by decide,
    Relation.ReflTransGen.single ⟨by decide, rfl⟩, fun lenient => ?_⟩
  have hchild := stranded_orphan (d := child) (by decide) (by decide) (by decide) (by decide)
  exact hchild.mergeErased_eq

/-- Where the superclasses of both classes are declared, the subclass wins in either order. -/
theorem merge_heir_with_elder :
    families.SuperclassesAcyclic ∧ elder ≠ heir ∧ Relation.ReflTransGen families.Extends heir elder ∧
      (families.merge false (.object "a.Heir") (.object "a.Elder")).outcome.value = .ok (.object "a.Heir") ∧
      (families.merge false (.object "a.Elder") (.object "a.Heir")).outcome.value = .ok (.object "a.Heir") := by
  have hpath : Relation.ReflTransGen families.Extends heir elder :=
    Relation.ReflTransGen.single ⟨by decide, rfl⟩
  obtain ⟨hfirst, hsecond, -⟩ := merge_with_subclass families families_acyclic false elder heir (by decide)
    (by decide) (by decide) (by decide) (by decide) (by decide) (by decide) hpath
  exact ⟨families_acyclic, by decide, hpath, hfirst, hsecond.2 elder_ends⟩

end Hierarchy

end CallTargets
