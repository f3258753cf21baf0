import CallTargets.Proofs.Dispatch.Targets

/-!
# Calls that default methods answer

A class may have a body for a call from its superclasses or from an interface above it.  Bodies of the first kind are
never missed.  A body of the second kind counts for the owner of a call only, provided that the owner is a class and
that neither it nor a subclass of it can receive the call.

* `mem_targets_iff` says exactly which of the classes that could be targets are targets.
* `greeters_not_complete` is a small case in which a class with a default method is missing: the call is on the
  interface that has it.
-/

namespace CallTargets

namespace Resolver

variable {r : Resolver} {site : CallSite} {owner c : ClassDecl}

/-! ### Looking at one declaration -/

lemma visitDefault_cls (r : Resolver) (site : CallSite) (name : ClassName) (c : ClassDecl)
    (hits : List ClassDecl) :
    (r.visitDefault site (.cls name) c hits).value =
      .next hits (c.interfaces.map .interface ++ (r.superNode c).value) := rfl

lemma visitDefault_interface (r : Resolver) (site : CallSite) (name : ClassName) (c : ClassDecl)
    (hits : List ClassDecl) :
    (r.visitDefault site (.interface name) c hits).value =
      if (r.declares site c).value then
        match r.policy.defaultSearch with
        | .firstFound => .stop (hits ++ [c])
        | .exhaustive => .next (hits ++ [c]) []
      else .next hits (c.interfaces.map .interface) := by
  rw [visitDefault, Logged.value_bind]
  cases (r.declares site c).value with
  | false => rfl
  | true => cases r.policy.defaultSearch <;> rfl

/-- Where the search ends at the first default method, it finds at most one. -/
lemma length_defaultMethods_le_one (hfirst : r.policy.defaultSearch = .firstFound) (site : CallSite)
    (c : ClassDecl) : (r.defaultMethods site c).value.length ≤ 1 := by
  have hval : (r.defaultMethods site c).value =
      (r.hierarchy.explore DefaultNode.name DefaultNode.absent (r.visitDefault site)
        (c.interfaces.map .interface ++ (r.superNode c).value) [c.name] []).value := rfl
  rw [hval]
  -- no hit is kept while the search goes on
  refine Hierarchy.explore_induction (h := r.hierarchy) (motive := fun _ _ s t => s = [] → t.length ≤ 1)
    ?_ ?_ ?_ ?_ ?_ _ _ [] rfl
  · rintro seen s rfl
    simp
  · intro node rest seen s t _ ih
    exact ih
  · intro node rest seen s t _ _ ih
    exact ih
  · rintro node rest seen s t d _ _ hv rfl
    cases node with
    | cls name => exact absurd hv (by simp [visitDefault_cls])
    | interface name =>
      rw [visitDefault_interface, hfirst] at hv
      split at hv
      · obtain rfl : [d] = t := by simpa using hv
        simp
      · exact absurd hv (by simp)
  · rintro node rest seen s t d s' nodes _ _ hv ih rfl
    refine ih ?_
    cases node with
    | cls name =>
      rw [visitDefault_cls] at hv
      exact (Hierarchy.Visit.next.inj hv).1.symm
    | interface name =>
      rw [visitDefault_interface, hfirst] at hv
      split at hv
      · exact absurd hv (by simp)
      · exact (Hierarchy.Visit.next.inj hv).1.symm

/-! ### Classes that could be targets -/

/-- The class `c` has instances and is the owner of a call, one of its subclasses or, if the owner is an interface,
one of its implementors. -/
def Candidate (r : Resolver) (owner c : ClassDecl) : Prop :=
  c ∈ r.hierarchy.classes ∧ c.isInterface = false ∧ c.isAbstract = false ∧
    (c = owner ∨ owner.isInterface = false ∧ c ∈ r.hierarchy.subclasses owner.name ∨
      owner.isInterface = true ∧ c ∈ r.hierarchy.implementors owner.name)

/-- The class `c` has a body for a call, from its superclasses or from an interface. -/
def HasBody (r : Resolver) (site : CallSite) (c : ClassDecl) : Prop :=
  (r.inherits site c).value = true ∨ (r.defaultMethods site c).value ≠ []

/-- Neither the owner of a call nor a subclass of it can receive the call. -/
def Unreceived (r : Resolver) (site : CallSite) (owner : ClassDecl) : Prop :=
  owner.isInterface = false ∧
    ∀ d, d = owner ∨ d ∈ r.hierarchy.subclasses owner.name → (r.canReceive site d).value = false

lemma shortcut?_eq_none (hobject : site.isObjectMethod = false) : r.shortcut? site = none := by
  have hget : site.isGetClass = false := by
    rw [CallSite.isObjectMethod] at hobject
    simp only [Bool.or_eq_false_iff] at hobject
    exact hobject.1.1
  rw [shortcut?, if_neg (by simp [hget])]

/-- A class with instances can receive a call exactly if it inherits a method for it. -/
lemma receives_iff_inherits (hc : c ∈ r.hierarchy.classes) (hcls : c.isInterface = false)
    (hconcrete : c.isAbstract = false) : r.Receives site c ↔ (r.inherits site c).value = true := by
  rw [inherits_eq_true_iff hc, Receives]
  exact ⟨fun hrec => hrec.2.2, fun hinh => ⟨hcls, Or.inl hconcrete, hinh⟩⟩

lemma inherited_eq_nil_iff (howner : owner ∈ r.hierarchy.classes) (hcls : owner.isInterface = false)
    (hvirtual : site.isStatic = false) :
    r.inherited site owner = [] ↔ r.Unreceived site owner := by
  rw [List.eq_nil_iff_forall_not_mem]
  constructor
  · refine fun hnone => ⟨hcls, fun d hd => ?_⟩
    by_contra hrec
    rw [Bool.not_eq_false] at hrec
    refine hnone d ((mem_inherited_iff howner).2 ?_)
    rcases hd with rfl | hd
    · exact ⟨howner, Or.inl rfl, (canReceive_eq_true_iff howner).1 hrec⟩
    · obtain ⟨hdc, -, hpath⟩ := (Hierarchy.mem_subclasses_iff howner).1 hd
      exact ⟨hdc, Or.inr ⟨hvirtual, hpath⟩, (canReceive_eq_true_iff hdc).1 hrec⟩
  · rintro ⟨-, hnone⟩ d hd
    obtain ⟨hdc, hplace, hrec⟩ := (mem_inherited_iff howner).1 hd
    have hval : (r.canReceive site d).value = false := by
      by_cases hdo : d = owner
      · exact hnone d (Or.inl hdo)
      · have hpath := (hplace.resolve_left hdo).2
        exact hnone d (Or.inr ((Hierarchy.mem_subclasses_iff howner).2 ⟨hdc, hdo, hpath⟩))
    rw [(canReceive_eq_true_iff hdc).2 hrec] at hval
    exact absurd hval (by simp)

/-- Which candidates are targets of a call on a class. -/
lemma mem_classResult_iff (hfirst : r.policy.defaultSearch = .firstFound)
    (hvirtual : site.isStatic = false) (hobject : site.isObjectMethod = false)
    (howner : owner ∈ r.hierarchy.classes) (hcls : owner.isInterface = false)
    (hcand : r.Candidate owner c) :
    c ∈ r.classResult site owner ↔ (r.inherits site c).value = true ∨
      c = owner ∧ r.Unreceived site owner ∧ (r.defaultMethods site c).value ≠ [] := by
  obtain ⟨hc, hcc, hconcrete, hplace⟩ := hcand
  have hinherited : c ∈ r.inherited site owner ↔ (r.inherits site c).value = true := by
    rw [mem_inherited_iff howner, ClassTarget, receives_iff_inherits hc hcc hconcrete]
    refine ⟨fun htarget => htarget.2.2, fun hinh => ⟨hc, ?_, hinh⟩⟩
    rcases hplace with rfl | ⟨-, hsub⟩ | ⟨hint, -⟩
    · exact Or.inl rfl
    · exact Or.inr ⟨hvirtual, ((Hierarchy.mem_subclasses_iff howner).1 hsub).2.2⟩
    · exact absurd (hcls.symm.trans hint) (by simp)
  by_cases hnil : r.inherited site owner = []
  · have hun := (inherited_eq_nil_iff howner hcls hvirtual).1 hnil
    have hnot : ¬ (r.inherits site c).value = true := by
      rw [← hinherited, hnil]
      simp
    obtain ⟨hadopt, hnone⟩ := classResult_eq hnil
    have hone := length_defaultMethods_le_one hfirst site owner
    by_cases hdef : (r.defaultMethods site owner).value = []
    · rw [hnone (by rw [adoptsDefault_iff, hdef]; simp)]
      refine iff_of_false (by simp) ?_
      rintro (hinh | ⟨rfl, -, hne⟩)
      · exact hnot hinh
      · exact hne hdef
    · have hpos := List.length_pos_iff.2 hdef
      rw [hadopt (adoptsDefault_iff.2 ⟨hvirtual, hobject, by omega⟩), List.mem_singleton]
      refine ⟨fun hco => Or.inr ⟨hco, hun, hco ▸ hdef⟩, ?_⟩
      rintro (hinh | ⟨rfl, -, -⟩)
      · exact absurd hinh hnot
      · rfl
  · rw [classResult_of_ne_nil hnil, hinherited]
    refine ⟨Or.inl, ?_⟩
    rintro (hinh | ⟨-, hun, -⟩)
    · exact hinh
    · exact absurd ((inherited_eq_nil_iff howner hcls hvirtual).2 hun) hnil

/-- Which candidates are targets of a call on an interface. -/
lemma mem_interfaceResult_iff_inherits (howner : owner ∈ r.hierarchy.classes)
    (hint : owner.isInterface = true) (hcand : r.Candidate owner c) :
    c ∈ r.interfaceResult site false owner ↔ (r.inherits site c).value = true := by
  obtain ⟨hc, hcc, hconcrete, hplace⟩ := hcand
  rw [mem_interfaceResult_iff howner, InterfaceTarget, receives_iff_inherits hc hcc hconcrete]
  refine ⟨fun htarget => htarget.2.2.1, fun hinh => ⟨hc, ?_, hinh, by simp⟩⟩
  rcases hplace with rfl | ⟨hcls, -⟩ | ⟨-, himpl⟩
  · exact absurd (hcc.symm.trans hint) (by simp)
  · exact absurd (hcls.symm.trans hint) (by simp)
  · exact ((Hierarchy.mem_implementors_iff howner).1 himpl).2.2

/-! ### Completeness -/

/-- Resolving a call lists every class that could be a target and has a body for the call. -/
def ListsAllBodies (r : Resolver) (site : CallSite) (options : DispatchOptions) (owner : ClassDecl) :
    Prop :=
  ∃ targets, (r.resolve site options).value.outcome = .ok targets ∧
    ∀ c, r.Candidate owner c → r.HasBody site c → c ∈ targets

/-- An interface with a default method. -/
def greeter : ClassDecl :=
  ⟨"a.Greeter", .interface ||| .abstract, none, [], .topLevel, [⟨"greet", 0, [], .void⟩]⟩

/-- A class that has no other body for the method than the one of `greeter`. -/
def person : ClassDecl := ⟨"a.Person", 0, none, ["a.Greeter"], .topLevel, []⟩

/-- The call of `greet` on the class or interface `owner`. -/
def greetOn (owner : ClassDecl) : CallSite := ⟨owner.name, "greet", "()V", false, none, none⟩

lemma defaultMethods_person (owner : ClassDecl) :
    ((unlimited [greeter, person] {}).defaultMethods (greetOn owner) person).value = [greeter] := by
  cbv

/-- A class whose only body is a default method is not a target of a call on the interface. -/
theorem greeters_not_complete :
    ({} : DispatchPolicy).defaultSearch = .firstFound ∧ (greetOn greeter).isStatic = false ∧
      (greetOn greeter).isObjectMethod = false ∧
      (unlimited [greeter, person] {}).hierarchy.find? (greetOn greeter).owner = some greeter ∧
      ({} : DispatchOptions).exactType = false ∧ ({} : DispatchOptions).serializableOnly = false ∧
      ¬ (unlimited [greeter, person] {}).ListsAllBodies (greetOn greeter) {} greeter := by
  refine ⟨rfl, rfl, by decide, by decide, rfl, rfl, ?_⟩
  rintro ⟨targets, hok, hall⟩
  have hnil : ((unlimited [greeter, person] {}).resolve (greetOn greeter) {}).value.outcome = .ok [] := by
    cbv
  obtain rfl : targets = [] := Except.ok.inj (hok.symm.trans hnil)
  have himpl : (unlimited [greeter, person] {}).hierarchy.implementors "a.Greeter" = [person] := by
    cbv
  have hcand : (unlimited [greeter, person] {}).Candidate greeter person := by
    refine ⟨by decide, by decide, by decide, Or.inr (Or.inr ⟨by decide, ?_⟩)⟩
    change person ∈ (unlimited [greeter, person] {}).hierarchy.implementors "a.Greeter"
    rw [himpl]
    exact List.mem_singleton_self person
  have hbody : (unlimited [greeter, person] {}).HasBody (greetOn greeter) person :=
    Or.inr (by rw [defaultMethods_person]; simp)
  exact absurd (hall person hcand hbody) (by simp)

/-- **Which candidates are targets.**  A class that could be a target is one exactly if it inherits a method for the
call, or if it is the owner and has a default method while neither it nor a subclass of it can receive the call. -/
theorem mem_targets_iff (cs : List ClassDecl) (policy : DispatchPolicy) (site : CallSite)
    (options : DispatchOptions) (owner : ClassDecl) (hfirst : policy.defaultSearch = .firstFound)
    (hvirtual : site.isStatic = false) (hobject : site.isObjectMethod = false)
    (howner : (unlimited cs policy).hierarchy.find? site.owner = some owner)
    (hexact : options.exactType = false) (hserial : options.serializableOnly = false) :
    ∃ targets, ((unlimited cs policy).resolve site options).value.outcome = .ok targets ∧
      ∀ c, (unlimited cs policy).Candidate owner c →
        (c ∈ targets ↔ ((unlimited cs policy).inherits site c).value = true ∨
          c = owner ∧ (unlimited cs policy).Unreceived site owner ∧
            ((unlimited cs policy).defaultMethods site c).value ≠ []) := by
  have hmem := Hierarchy.mem_of_find?_eq_some howner
  rw [outcome_resolve (shortcut?_eq_none hobject) howner, ownerTargets, if_neg (by simp [hexact])]
  by_cases hint : owner.isInterface = true
  · refine ⟨(unlimited cs policy).interfaceResult site false owner, ?_, fun c hcand => ?_⟩
    · rw [if_pos hint, hserial, outcome_interfaceTargets rfl, bounded_eq_ok rfl]
    · rw [mem_interfaceResult_iff_inherits hmem hint hcand]
      refine ⟨Or.inl, ?_⟩
      rintro (hinh | ⟨-, ⟨hcls, -⟩, -⟩)
      · exact hinh
      · exact absurd (hcls.symm.trans hint) (by simp)
  · refine ⟨(unlimited cs policy).classResult site owner, ?_, fun c hcand => ?_⟩
    · rw [if_neg hint, outcome_classTargets rfl, bounded_eq_ok rfl]
    · exact mem_classResult_iff hfirst hvirtual hobject hmem (by simpa using hint) hcand

theorem person_mem_targets :
    ({} : DispatchPolicy).defaultSearch = .firstFound ∧ (greetOn person).isStatic = false ∧
      (greetOn person).isObjectMethod = false ∧
      (unlimited [greeter, person] {}).hierarchy.find? (greetOn person).owner = some person ∧
      (unlimited [greeter, person] {}).Candidate person person ∧
      ∃ targets, ((unlimited [greeter, person] {}).resolve (greetOn person) {}).value.outcome = .ok targets ∧
        person ∈ targets := by
  have hcand : (unlimited [greeter, person] {}).Candidate person person :=
    ⟨by decide, by decide, by decide, Or.inl rfl⟩
  have hsub : (unlimited [greeter, person] {}).hierarchy.subclasses "a.Person" = [] := by
    cbv
  have hrec : ((unlimited [greeter, person] {}).canReceive (greetOn person) person).value = false := by
    cbv
  have hun : (unlimited [greeter, person] {}).Unreceived (greetOn person) person := by
    refine ⟨by decide, ?_⟩
    rintro d (rfl | hd)
    · exact hrec
    · exact absurd (hsub ▸ hd) (by simp)
  obtain ⟨targets, hok, hiff⟩ :=
    mem_targets_iff [greeter, person] {} (greetOn person) {} person rfl rfl (by decide) (by decide) rfl rfl
  refine ⟨rfl, rfl, by decide, by decide, hcand, targets, hok, (hiff person hcand).2 (Or.inr ⟨rfl, hun, ?_⟩)⟩
  rw [defaultMethods_person]
  simp

end Resolver

end CallTargets
