import CallTargets.Proofs.Dispatch.Limits

/-!
# Targets that have instances

A virtual call is received by an object, and the class of an object is neither an interface nor abstract.  A class becomes
a target in one of four ways, and three of them test this: the receiver's class is known, an implementor receives the
call, a class below the owner or the owner itself receives it.  The fourth does not.  If nothing is found, the owner stands
in for a default method, and it may be abstract.

* `Resolver.AbstractStandIn`: the exact condition for that.
* `virtual_targets`: no target of a virtual call is an interface, and an abstract one is a stand-in.
* `abstract_target`: a call with an abstract class as its only target.
-/

namespace CallTargets

/-- The class has instances of its own. -/
def ClassDecl.Concrete (c : ClassDecl) : Prop := c.isInterface = false ∧ c.isAbstract = false

namespace Resolver

variable {r : Resolver} {site : CallSite} {options : DispatchOptions} {owner c : ClassDecl}
  {found : List ClassDecl}

/-- The owner of a call is found as its target for want of another one, through the only default method there is. -/
def StandsIn (r : Resolver) (site : CallSite) (owner : ClassDecl) : Prop :=
  owner.isInterface = false ∧ (¬ ∃ d, r.ClassTarget site owner d) ∧ r.AdoptsDefault site owner

/-- The class `c` is abstract and stands in as the target of a call on it. -/
def AbstractStandIn (r : Resolver) (site : CallSite) (c : ClassDecl) : Prop :=
  r.hierarchy.find? site.owner = some c ∧ c.isAbstract = true ∧ r.StandsIn site c

lemma Receives.concrete (hvirtual : site.isStatic = false) (hrec : r.Receives site c) : c.Concrete := by
  refine ⟨hrec.1, hrec.2.1.resolve_right ?_⟩
  simp [hvirtual]

lemma KnownReceiver.concrete (hvirtual : site.isStatic = false)
    (hknown : KnownReceiver site options owner) : owner.Concrete := by
  refine ⟨hknown.2.1, hknown.2.2.resolve_left ?_⟩
  simp [hvirtual]

lemma inherited_eq_nil_iff_no_target (howner : owner ∈ r.hierarchy.classes) :
    r.inherited site owner = [] ↔ ¬ ∃ d, r.ClassTarget site owner d := by
  rw [List.eq_nil_iff_forall_not_mem]
  simp only [mem_inherited_iff howner, not_exists]

lemma StandsIn.classResult_eq (howner : owner ∈ r.hierarchy.classes) (hstands : r.StandsIn site owner) :
    r.classResult site owner = [owner] :=
  (Resolver.classResult_eq ((inherited_eq_nil_iff_no_target howner).2 hstands.2.1)).1 hstands.2.2

/-- A target on a class receives the call, or it is the owner and stands in. -/
lemma mem_classResult_cases (howner : owner ∈ r.hierarchy.classes) (hcls : owner.isInterface = false)
    (hc : c ∈ r.classResult site owner) : r.Receives site c ∨ c = owner ∧ r.StandsIn site owner := by
  by_cases hnil : r.inherited site owner = []
  · obtain ⟨hadopt, hnone⟩ := Resolver.classResult_eq hnil
    by_cases hdefault : r.AdoptsDefault site owner
    · rw [hadopt hdefault, List.mem_singleton] at hc
      exact Or.inr ⟨hc, hcls, (inherited_eq_nil_iff_no_target howner).1 hnil, hdefault⟩
    · rw [hnone hdefault] at hc
      exact absurd hc List.not_mem_nil
  · rw [classResult_of_ne_nil hnil, mem_inherited_iff howner] at hc
    exact Or.inl hc.2.2

/-- The same for what a search finds, on a class or on an interface. -/
lemma mem_searchResult_cases (howner : owner ∈ r.hierarchy.classes)
    (hc : c ∈ r.searchResult site options owner) :
    r.Receives site c ∨ c = owner ∧ r.StandsIn site owner := by
  rw [searchResult] at hc
  split at hc
  · exact Or.inl ((mem_interfaceResult_iff howner).1 hc).2.2.1
  · rename_i hcls
    exact mem_classResult_cases howner (by simpa using hcls) hc

/-- A target of a virtual call has instances, or it is the owner and stands in. -/
lemma concrete_or_standsIn (hvirtual : site.isStatic = false) (hget : site.isGetClass = false)
    (hok : (r.resolve site options).value.outcome = .ok found) (hc : c ∈ found) :
    c.Concrete ∨ r.hierarchy.find? site.owner = some c ∧ r.StandsIn site c := by
  rcases found_cases hget hok with ⟨-, rfl⟩ | ⟨owner, howner, ⟨hknown, rfl⟩ | ⟨-, rfl⟩⟩
  · exact absurd hc List.not_mem_nil
  · obtain rfl : c = owner := List.mem_singleton.1 hc
    exact Or.inl (hknown.concrete hvirtual)
  · rcases mem_searchResult_cases (Hierarchy.mem_of_find?_eq_some howner) hc with hrec | ⟨rfl, hstands⟩
    · exact Or.inl (hrec.concrete hvirtual)
    · exact Or.inr ⟨howner, hstands⟩

/-- An abstract class that stands in is the only target. -/
lemma AbstractStandIn.found_eq (hvirtual : site.isStatic = false) (hget : site.isGetClass = false)
    (hok : (r.resolve site options).value.outcome = .ok found) (hstands : r.AbstractStandIn site c) :
    found = [c] := by
  obtain ⟨hfind, habstract, hstands⟩ := hstands
  rcases found_cases hget hok with ⟨hnone, -⟩ | ⟨owner, howner, hcases⟩
  · exact absurd (hnone.symm.trans hfind) (by simp)
  · obtain rfl : owner = c := Option.some.inj (howner.symm.trans hfind)
    rcases hcases with ⟨hknown, -⟩ | ⟨-, rfl⟩
    · -- an abstract class is not the known class of a receiver
      exact absurd (habstract.symm.trans (hknown.concrete hvirtual).2) (by simp)
    · rw [searchResult, if_neg (by simp [hstands.1]),
        hstands.classResult_eq (Hierarchy.mem_of_find?_eq_some howner)]

/-- **The targets of a virtual call**, for any limit and cancelled or not.  None is an interface.  An abstract one is the
owner, and it stands in for a default method; so all targets have instances exactly if there is no such stand-in. -/
theorem virtual_targets (r : Resolver) (site : CallSite) (options : DispatchOptions)
    (found : List ClassDecl) (hvirtual : site.isStatic = false) (hget : site.isGetClass = false)
    (hok : (r.resolve site options).value.outcome = .ok found) :
    (∀ c ∈ found, c.isInterface = false) ∧
      (∀ c, c ∈ found ∧ c.isAbstract = true ↔ r.AbstractStandIn site c) ∧
      ((∀ c ∈ found, c.Concrete) ↔ ¬ ∃ c, r.AbstractStandIn site c) := by
  have habstract : ∀ c, c ∈ found ∧ c.isAbstract = true ↔ r.AbstractStandIn site c := by
    intro c
    constructor
    · rintro ⟨hc, habs⟩
      rcases concrete_or_standsIn hvirtual hget hok hc with hconcrete | ⟨hfind, hstands⟩
      · exact absurd (habs.symm.trans hconcrete.2) (by simp)
      · exact ⟨hfind, habs, hstands⟩
    · intro hstands
      rw [hstands.found_eq hvirtual hget hok]
      exact ⟨List.mem_singleton_self c, hstands.2.1⟩
  have hclass : ∀ c ∈ found, c.isInterface = false := by
    intro c hc
    rcases concrete_or_standsIn hvirtual hget hok hc with hconcrete | ⟨-, hstands⟩
    · exact hconcrete.1
    · exact hstands.1
  refine ⟨hclass, habstract, ?_, ?_⟩
  · rintro hall ⟨c, hstands⟩
    obtain ⟨hc, habs⟩ := (habstract c).2 hstands
    exact absurd (habs.symm.trans (hall c hc).2) (by simp)
  · intro hnone c hc
    refine ⟨hclass c hc, ?_⟩
    by_contra habs
    exact hnone ⟨c, (habstract c).1 ⟨hc, by simpa using habs⟩⟩

/-- An interface with a default method. -/
def speaker : ClassDecl :=
  ⟨"a.Speaker", .interface ||| .abstract, none, [], .topLevel, [⟨"speak", 0, [], .void⟩]⟩

/-- An abstract class that has no other body for the method. -/
def animal : ClassDecl := ⟨"a.Animal", .abstract, none, ["a.Speaker"], .topLevel, []⟩

/-- A subclass of it with a body of its own. -/
def dog : ClassDecl := ⟨"a.Dog", 0, some "a.Animal", [], .topLevel, [⟨"speak", 0, [], .void⟩]⟩

/-- The call of `speak` on the abstract class. -/
def speakOnAnimal : CallSite := ⟨"a.Animal", "speak", "()V", false, none, none⟩

/-- An abstract class is the only target of a call, although it has no instances that could receive it. -/
theorem abstract_target :
    speakOnAnimal.isStatic = false ∧ speakOnAnimal.isGetClass = false ∧
      ((unlimited [speaker, animal] {}).resolve speakOnAnimal {}).value.outcome = .ok [animal] ∧
      ¬ ∀ c ∈ [animal], c.Concrete := by
  refine ⟨rfl, by decide, by cbv, fun hall => ?_⟩
  exact absurd (hall animal (List.mem_singleton_self animal)).2 (by decide)

lemma classTarget_dog : (unlimited [speaker, animal, dog] {}).ClassTarget speakOnAnimal animal dog := by
  have hpath : Relation.TransGen (unlimited [speaker, animal, dog] {}).hierarchy.Extends dog animal :=
    Relation.TransGen.single ⟨by decide, rfl⟩
  exact ⟨by decide, Or.inr ⟨rfl, hpath⟩, by decide, Or.inl (by decide), dog, Relation.ReflTransGen.refl, by cbv⟩

/-- With the subclass the abstract class does not stand in. -/
theorem virtual_targets_dog :
    speakOnAnimal.isStatic = false ∧ speakOnAnimal.isGetClass = false ∧
      ∃ found, ((unlimited [speaker, animal, dog] {}).resolve speakOnAnimal {}).value.outcome = .ok found ∧
        dog ∈ found ∧ ∀ c ∈ found, c.Concrete := by
  have hanimal : (unlimited [speaker, animal, dog] {}).hierarchy.find? speakOnAnimal.owner = some animal := by
    decide
  have hs : (unlimited [speaker, animal, dog] {}).Searched speakOnAnimal {} animal :=
    searched_of_not_known (by decide) hanimal fun hknown => absurd hknown.1 (by decide)
  have hok := outcome_resolve_searched hs none
  have hdog : dog ∈ (unlimited [speaker, animal, dog] {}).inherited speakOnAnimal animal :=
    (mem_inherited_iff (by decide)).2 classTarget_dog
  obtain ⟨-, -, hiff⟩ :=
    virtual_targets (unlimited [speaker, animal, dog] {}) speakOnAnimal {} _ rfl (by decide) hok
  refine ⟨rfl, by decide, _, hok, ?_, hiff.2 ?_⟩
  · rwa [searchResult, if_neg (by decide), classResult_of_ne_nil (List.ne_nil_of_mem hdog)]
  · rintro ⟨c, hfind, -, -, hnone, -⟩
    obtain rfl : animal = c := Option.some.inj (hanimal.symm.trans hfind)
    exact hnone ⟨dog, classTarget_dog⟩

end Resolver

end CallTargets
