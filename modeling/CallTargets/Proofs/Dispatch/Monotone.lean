import CallTargets.Proofs.Dispatch.Targets
import CallTargets.Proofs.Dispatch.Matching

/-!
# One call on different owners

The same method may be called on a class, on a class or interface above it, or on one below it.  The further up the owner
is, the more targets the call has, although calls on classes and on interfaces are resolved in different ways.

* `CallSite.on`: the same call on another owner.  Which classes receive a call does not depend on the owner.
* `Hierarchy.Under`: a class is under an owner, by superclass edges if the owner is a class and as an implementor if it is
  an interface.  Being under an owner carries over to every owner further up: `Under.of_class` and `Under.of_interface`.
* `mem_targetsOn`: the targets on an owner are the classes under it that receive the call.  On a class that holds only if
  there is one, since otherwise a default method is looked for.
* `targets_monotone` puts this together.
-/

namespace CallTargets

/-- The same call on another class or interface. -/
def CallSite.on (site : CallSite) (owner : ClassDecl) : CallSite := { site with owner := owner.name }

namespace Hierarchy

/-- The class `c` is `owner` or a subclass of it or, if `owner` is an interface, an implementor of it. -/
def Under (h : Hierarchy) (c owner : ClassDecl) : Prop :=
  owner.isInterface = false ∧ Relation.ReflTransGen h.Extends c owner ∨
    owner.isInterface = true ∧ h.Implements c owner

variable {h : Hierarchy} {a b c : ClassDecl}

/-- A subclass implements what its superclass implements. -/
lemma Implements.of_extends (hcb : Relation.ReflTransGen h.Extends c b) (hba : h.Implements b a) :
    h.Implements c a := by
  obtain ⟨d, hd, hcls, hbd, hj⟩ := hba
  exact ⟨d, hd, hcls, hcb.trans hbd, hj⟩

/-- What implements an interface implements the interfaces that it extends. -/
lemma Implements.of_refines (hcb : h.Implements c b) (hba : Relation.ReflTransGen h.Refines b a) :
    h.Implements c a := by
  obtain ⟨d, hd, hcls, hcd, j, hj, hjd, hjb⟩ := hcb
  exact ⟨d, hd, hcls, hcd, j, hj, hjd, hjb.trans hba⟩

lemma Under.of_class (hb : b.isInterface = false) (hcb : h.Under c b) (hba : h.Under b a) :
    h.Under c a := by
  have hpath : Relation.ReflTransGen h.Extends c b := by
    rcases hcb with ⟨-, hpath⟩ | ⟨hint, -⟩
    · exact hpath
    · exact absurd (hb.symm.trans hint) (by simp)
  rcases hba with ⟨ha, hba⟩ | ⟨ha, hba⟩
  · exact Or.inl ⟨ha, hpath.trans hba⟩
  · exact Or.inr ⟨ha, hba.of_extends hpath⟩

lemma Under.of_interface (hb : b.isInterface = true) (ha : a.isInterface = true) (hcb : h.Under c b)
    (hba : Relation.ReflTransGen h.Refines b a) : h.Under c a := by
  rcases hcb with ⟨hcls, -⟩ | ⟨-, himpl⟩
  · exact absurd (hcls.symm.trans hb) (by simp)
  · exact Or.inr ⟨ha, himpl.of_refines hba⟩

/-- The two queries list classes that are under their argument. -/
lemma under_of_mem (ha : a ∈ h.classes)
    (hb : a.isInterface = false ∧ b ∈ h.subclasses a.name ∨
      a.isInterface = true ∧ b ∈ h.implementors a.name) : h.Under b a := by
  rcases hb with ⟨hcls, hsub⟩ | ⟨hint, himpl⟩
  · exact Or.inl ⟨hcls, ((mem_subclasses_iff ha).1 hsub).2.2.to_reflTransGen⟩
  · exact Or.inr ⟨hint, ((mem_implementors_iff ha).1 himpl).2.2⟩

end Hierarchy

namespace Resolver

variable {r : Resolver} {site : CallSite} {owner a b c : ClassDecl}

/-! ### What does not depend on the owner -/

lemma value_declaresAmong_on (ms : List MethodDecl) :
    (r.declaresAmong (site.on owner) c ms).value = (r.declaresAmong site c ms).value := by
  rw [value_declaresAmong, value_declaresAmong]
  rfl

lemma receives_on_iff : r.Receives (site.on owner) c ↔ r.Receives site c := by
  have hdeclares : ∀ d, (r.declares (site.on owner) d).value = (r.declares site d).value :=
    fun d => value_declaresAmong_on (d.methodsNamed site.name)
  simp only [Receives, hdeclares]
  rfl

/-! ### The targets on an owner -/

/-- The targets of a call on `owner`, with the default options. -/
def targetsOn (r : Resolver) (site : CallSite) (owner : ClassDecl) : Except Failure (List ClassDecl) :=
  (r.resolve (site.on owner) {}).value.outcome

/-- The class `c` is under `owner` and receives the call. -/
def TargetUnder (r : Resolver) (site : CallSite) (owner c : ClassDecl) : Prop :=
  c ∈ r.hierarchy.classes ∧ r.hierarchy.Under c owner ∧ r.Receives site c

/-- All targets of a call on `b` are targets of the call on `a`, and both calls are resolved. -/
def NoMoreThan (r : Resolver) (site : CallSite) (b a : ClassDecl) : Prop :=
  ∃ lower upper, r.targetsOn site b = .ok lower ∧ r.targetsOn site a = .ok upper ∧ lower ⊆ upper

lemma classTarget_on_iff (hvirtual : site.isStatic = false) (hcls : owner.isInterface = false) :
    r.ClassTarget (site.on owner) owner c ↔ r.TargetUnder site owner c := by
  have hunder : r.hierarchy.Under c owner ↔ c = owner ∨
      (site.on owner).isStatic = false ∧ Relation.TransGen r.hierarchy.Extends c owner := by
    have hstatic : (site.on owner).isStatic = false := hvirtual
    simp only [Hierarchy.Under, hcls, hstatic, true_and, Bool.false_eq_true, false_and, or_false]
    rw [Relation.reflTransGen_iff_eq_or_transGen, eq_comm]
  rw [ClassTarget, TargetUnder, receives_on_iff, hunder]

lemma interfaceTarget_on_iff (hint : owner.isInterface = true) :
    r.InterfaceTarget (site.on owner) false owner c ↔ r.TargetUnder site owner c := by
  simp [InterfaceTarget, TargetUnder, receives_on_iff, Hierarchy.Under, hint]

/-- **The targets on an owner** are the classes under it that receive the call, provided that the owner is an interface or
that there is one. -/
lemma mem_targetsOn (hlimit : r.limit = none) (hcancel : r.cancelledAfter = none)
    (hvirtual : site.isStatic = false) (hshort : r.shortcut? site = none)
    (howner : owner ∈ r.hierarchy.classes)
    (hsome : owner.isInterface = true ∨ ∃ c, r.TargetUnder site owner c) :
    ∃ targets, r.targetsOn site owner = .ok targets ∧
      ∀ c, c ∈ targets ↔ r.TargetUnder site owner c := by
  have hshort' : r.shortcut? (site.on owner) = none := hshort
  have hfind : r.hierarchy.find? (site.on owner).owner = some owner := Hierarchy.find?_name howner
  rw [targetsOn, outcome_resolve hshort' hfind, ownerTargets, if_neg (by simp)]
  cases hint : owner.isInterface with
  | true =>
    refine ⟨r.interfaceResult (site.on owner) false owner, ?_, fun c => ?_⟩
    · rw [if_pos rfl, outcome_interfaceTargets hcancel, bounded_eq_ok hlimit]
    · rw [mem_interfaceResult_iff howner, interfaceTarget_on_iff hint]
  | false =>
    have hmem : ∀ c, c ∈ r.inherited (site.on owner) owner ↔ r.TargetUnder site owner c := fun c => by
      rw [mem_inherited_iff howner, classTarget_on_iff hvirtual hint]
    -- there is a target, so that default methods are not looked at
    have hne : r.inherited (site.on owner) owner ≠ [] := by
      obtain ⟨c, hc⟩ := hsome.resolve_left (by simp [hint])
      exact List.ne_nil_of_mem ((hmem c).2 hc)
    refine ⟨r.inherited (site.on owner) owner, ?_, hmem⟩
    rw [if_neg (by simp), outcome_classTargets hcancel, classResult_of_ne_nil hne, bounded_eq_ok hlimit]

/-! ### Monotonicity -/

/-- If everything under `b` is under `a`, the targets on `b` are targets on `a`. -/
lemma noMoreThan_of_under (hlimit : r.limit = none) (hcancel : r.cancelledAfter = none)
    (hvirtual : site.isStatic = false) (hshort : r.shortcut? site = none)
    (ha : a ∈ r.hierarchy.classes) (hb : b ∈ r.hierarchy.classes)
    (hsome : b.isInterface = true ∧ a.isInterface = true ∨ ∃ c, r.TargetUnder site b c)
    (hunder : ∀ c, r.hierarchy.Under c b → r.hierarchy.Under c a) : r.NoMoreThan site b a := by
  have hmono : ∀ c, r.TargetUnder site b c → r.TargetUnder site a c := by
    rintro c ⟨hc, hcb, hrec⟩
    exact ⟨hc, hunder c hcb, hrec⟩
  obtain ⟨lower, hlower, hmemb⟩ := mem_targetsOn hlimit hcancel hvirtual hshort hb
    (hsome.imp And.left id)
  obtain ⟨upper, hupper, hmema⟩ := mem_targetsOn hlimit hcancel hvirtual hshort ha
    (hsome.imp And.right fun ⟨c, hc⟩ => ⟨c, hmono c hc⟩)
  refine ⟨lower, upper, hlower, hupper, fun c hc => ?_⟩
  exact (hmema c).2 (hmono c ((hmemb c).1 hc))

/-- A class that can receive the call, at `b` or below it, is a target under `b`. -/
lemma targetUnder_of_canReceive (hb : b ∈ r.hierarchy.classes) (hcls : b.isInterface = false)
    (hplace : c = b ∨ c ∈ r.hierarchy.subclasses b.name)
    (hrec : (r.canReceive (site.on b) c).value = true) : r.TargetUnder site b c := by
  rcases hplace with rfl | hsub
  · have hrec' := (canReceive_eq_true_iff hb).1 hrec
    exact ⟨hb, Or.inl ⟨hcls, Relation.ReflTransGen.refl⟩, receives_on_iff.1 hrec'⟩
  · obtain ⟨hc, -, hpath⟩ := (Hierarchy.mem_subclasses_iff hb).1 hsub
    have hrec' := (canReceive_eq_true_iff hc).1 hrec
    exact ⟨hc, Or.inl ⟨hcls, hpath.to_reflTransGen⟩, receives_on_iff.1 hrec'⟩

/-- **Targets are monotone in the owner.**  A call on a class has no other targets than the call on a class or interface
above it, provided that the class or one of its subclasses can receive the call; and a call on an interface has no other
targets than the call on an interface that it extends. -/
theorem targets_monotone (cs : List ClassDecl) (policy : DispatchPolicy) (site : CallSite)
    (hvirtual : site.isStatic = false) (hshort : (unlimited cs policy).shortcut? site = none) :
    let r := unlimited cs policy
    (∀ a ∈ r.hierarchy.classes, ∀ b ∈ r.hierarchy.classes, b.isInterface = false →
      (a.isInterface = false ∧ b ∈ r.hierarchy.subclasses a.name ∨
        a.isInterface = true ∧ b ∈ r.hierarchy.implementors a.name) →
      (∃ c, (c = b ∨ c ∈ r.hierarchy.subclasses b.name) ∧
        (r.canReceive (site.on b) c).value = true) →
      r.NoMoreThan site b a) ∧
    (∀ a ∈ r.hierarchy.classes, ∀ b ∈ r.hierarchy.classes, a.isInterface = true →
      b.isInterface = true → Relation.ReflTransGen r.hierarchy.Refines b a → r.NoMoreThan site b a) := by
  intro r
  constructor
  · rintro a ha b hb hcls hplace ⟨c, hc, hrec⟩
    have hba : r.hierarchy.Under b a := Hierarchy.under_of_mem ha hplace
    have htarget : r.TargetUnder site b c := targetUnder_of_canReceive hb hcls hc hrec
    exact noMoreThan_of_under rfl rfl hvirtual hshort ha hb (Or.inr ⟨c, htarget⟩)
      fun d hdb => hdb.of_class hcls hba
  · intro a ha b hb hinta hintb hba
    exact noMoreThan_of_under rfl rfl hvirtual hshort ha hb (Or.inl ⟨hintb, hinta⟩)
      fun d hdb => hdb.of_interface hintb hinta hba

/-- An interface. -/
def choreTask : ClassDecl :=
  ⟨"a.Task", .interface ||| .abstract, none, [], .topLevel, [⟨"run", .abstract, [], .void⟩]⟩

/-- An interface that extends it. -/
def choreItself : ClassDecl := ⟨"a.Chore", .interface ||| .abstract, none, ["a.Task"], .topLevel, []⟩

/-- An abstract class that implements the second interface and has a method. -/
def choreJob : ClassDecl :=
  ⟨"a.Job", .abstract, some "java.lang.Object", ["a.Chore"], .topLevel, [⟨"run", 0, [], .void⟩]⟩

/-- A subclass of it. -/
def choreRetry : ClassDecl := ⟨"a.Retry", 0, some "a.Job", [], .topLevel, []⟩

/-- A class that implements the first interface only. -/
def choreOnce : ClassDecl := ⟨"a.Once", 0, none, ["a.Task"], .topLevel, [⟨"run", 0, [], .void⟩]⟩

/-- All these declarations. -/
def chores : List ClassDecl := [choreTask, choreItself, choreJob, choreRetry, choreOnce]

lemma extends_choreRetry : (unlimited chores {}).hierarchy.Extends choreRetry choreJob := ⟨by decide, rfl⟩

lemma refines_choreItself :
    Relation.ReflTransGen (unlimited chores {}).hierarchy.Refines choreItself choreTask :=
  .single ⟨by decide, by decide, by decide⟩

lemma implements_choreJob : (unlimited chores {}).hierarchy.Implements choreJob choreItself :=
  ⟨choreJob, by decide, by decide, .refl, choreItself, by decide, by decide, .refl⟩

lemma targetUnder_choreRetry : (unlimited chores {}).TargetUnder (runOn "a.Job") choreJob choreRetry := by
  refine ⟨by decide, Or.inl ⟨by decide, .single extends_choreRetry⟩, by decide, Or.inl (by decide), choreJob,
    .single ⟨extends_choreRetry, by decide⟩, by decide⟩

/-- The subclass is a target on the abstract class and on both interfaces, the other class on the first interface only. -/
theorem targets_monotone_chores :
    let r := unlimited chores {}
    (runOn "a.Job").isStatic = false ∧ r.shortcut? (runOn "a.Job") = none ∧
      choreJob.isInterface = false ∧ choreTask.isInterface = true ∧
      choreJob ∈ r.hierarchy.implementors choreTask.name ∧
      choreRetry ∈ r.hierarchy.subclasses choreJob.name ∧
      (r.canReceive ((runOn "a.Job").on choreJob) choreRetry).value = true ∧
      (∃ lower upper, r.targetsOn (runOn "a.Job") choreJob = .ok lower ∧
        r.targetsOn (runOn "a.Job") choreTask = .ok upper ∧ lower ⊆ upper ∧
        choreRetry ∈ lower ∧ choreRetry ∈ upper ∧ choreOnce ∈ upper ∧ choreOnce ∉ lower) ∧
      choreItself.isInterface = true ∧
      Relation.ReflTransGen r.hierarchy.Refines choreItself choreTask ∧
      ∃ lower upper, r.targetsOn (runOn "a.Job") choreItself = .ok lower ∧
        r.targetsOn (runOn "a.Job") choreTask = .ok upper ∧ lower ⊆ upper ∧
        choreRetry ∈ lower ∧ choreRetry ∈ upper := by
  intro r
  obtain ⟨hclass, hinterface⟩ := targets_monotone chores {} (runOn "a.Job") rfl (by decide)
  have htask : choreTask ∈ r.hierarchy.classes := by decide
  have hchore : choreItself ∈ r.hierarchy.classes := by decide
  have hjob : choreJob ∈ r.hierarchy.classes := by decide
  have hretry : choreRetry ∈ r.hierarchy.classes := by decide
  have himpl : choreJob ∈ r.hierarchy.implementors choreTask.name :=
    (Hierarchy.mem_implementors_iff htask).2
      ⟨hjob, by decide, implements_choreJob.of_refines refines_choreItself⟩
  have hsub : choreRetry ∈ r.hierarchy.subclasses choreJob.name :=
    (Hierarchy.mem_subclasses_iff hjob).2 ⟨hretry, by decide, .single extends_choreRetry⟩
  have hrec : (r.canReceive ((runOn "a.Job").on choreJob) choreRetry).value = true :=
    (canReceive_eq_true_iff hretry).2 (receives_on_iff.2 targetUnder_choreRetry.2.2)
  -- the lists of targets hold what is under their owner
  have hmem : ∀ owner ∈ r.hierarchy.classes, ∀ targets,
      owner.isInterface = true ∨ r.TargetUnder (runOn "a.Job") owner choreRetry →
      r.targetsOn (runOn "a.Job") owner = .ok targets →
      ∀ c, c ∈ targets ↔ r.TargetUnder (runOn "a.Job") owner c := by
    intro owner howner targets hsome hok
    obtain ⟨found, hfound, hiff⟩ :=
      mem_targetsOn (r := r) rfl rfl rfl (by decide) howner (hsome.imp id fun hc => ⟨choreRetry, hc⟩)
    obtain rfl : found = targets := Except.ok.inj (hfound.symm.trans hok)
    exact hiff
  have hretryChore : r.TargetUnder (runOn "a.Job") choreItself choreRetry :=
    ⟨hretry, Or.inr ⟨by decide, implements_choreJob.of_extends (.single extends_choreRetry)⟩,
      targetUnder_choreRetry.2.2⟩
  have hoverOnce : r.TargetUnder (runOn "a.Job") choreTask choreOnce :=
    ⟨by decide, Or.inr ⟨by decide, choreOnce, by decide, by decide, .refl, choreTask, htask, by decide, .refl⟩,
      by decide, Or.inl (by decide), choreOnce, .refl, by decide⟩
  have hnotOnce : ¬ r.TargetUnder (runOn "a.Job") choreJob choreOnce := by
    rintro ⟨-, ⟨-, hpath⟩ | ⟨hint, -⟩, -⟩
    · rcases Relation.ReflTransGen.cases_head hpath with heq | ⟨e, ⟨-, hsuper⟩, -⟩
      · exact absurd heq (by decide)
      · exact absurd hsuper (by simp [choreOnce])
    · exact absurd hint (by decide)
  obtain ⟨lower, upper, hlower, hupper, hle⟩ := hclass choreTask htask choreJob hjob (by decide)
    (Or.inr ⟨by decide, himpl⟩) ⟨choreRetry, Or.inr hsub, hrec⟩
  obtain ⟨lower', upper', hlower', hupper', hle'⟩ :=
    hinterface choreTask htask choreItself hchore (by decide) (by decide) refines_choreItself
  have hlow := hmem choreJob hjob lower (Or.inr targetUnder_choreRetry) hlower
  have hlow' := hmem choreItself hchore lower' (Or.inl (by decide)) hlower'
  have hfirst : choreRetry ∈ lower := (hlow _).2 targetUnder_choreRetry
  have hfirst' : choreRetry ∈ lower' := (hlow' _).2 hretryChore
  exact ⟨rfl, by decide, by decide, by decide, himpl, hsub, hrec,
    ⟨lower, upper, hlower, hupper, hle, hfirst, hle hfirst,
      (hmem choreTask htask upper (Or.inl (by decide)) hupper _).2 hoverOnce, fun hc => hnotOnce ((hlow _).1 hc)⟩,
    by decide, refines_choreItself, lower', upper', hlower', hupper', hle', hfirst', hle' hfirst'⟩

end Resolver

end CallTargets
