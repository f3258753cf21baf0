import CallTargets.Proofs.Dispatch.Collect
import CallTargets.Proofs.Text.ByteOrder
import Mathlib.Data.List.Permutation

/-!
# Which classes are the targets of a call

The targets of a call, said without a search: a condition on a class that speaks of edges in the hierarchy and of
declared methods only.

* `Resolver.ClassTarget` is the condition for a call on a class, and `Resolver.InterfaceTarget` for one on an interface.
* `resolve_on_class` and `resolve_on_interface`: resolving a call lists exactly the classes that meet the condition, by
  name.  On a class, where no class meets it, the owner stands in if exactly one default method is found for it.

The hierarchy is that of an arbitrary list of declarations.
-/

namespace CallTargets

namespace Resolver

open Hierarchy (Ascending put)

/-! ### Calls on a class -/

/-- The class `c` is the owner of a call or, unless the call is static, one of its subclasses, and receives the call. -/
def ClassTarget (r : Resolver) (site : CallSite) (owner c : ClassDecl) : Prop :=
  c ∈ r.hierarchy.classes ∧
    (c = owner ∨ site.isStatic = false ∧ Relation.TransGen r.hierarchy.Extends c owner) ∧
    r.Receives site c

/-- A call falls back on a default method: it is not static, no method of every object, and exactly one interface has a
default method for it. -/
def AdoptsDefault (r : Resolver) (site : CallSite) (owner : ClassDecl) : Prop :=
  site.isStatic = false ∧ site.isObjectMethod = false ∧
    ∃ i, (r.defaultMethods site owner).value = [i]

/-- The subclasses of the owner that may be targets of a call. -/
def candidates (r : Resolver) (site : CallSite) (owner : ClassDecl) : List ClassDecl :=
  if site.isStatic then [] else r.hierarchy.subclasses owner.name

/-- The targets of a call on a class that do not come from a default method. -/
def inherited (r : Resolver) (site : CallSite) (owner : ClassDecl) : List ClassDecl :=
  let below := (r.candidates site owner).filter fun c => (r.canReceive site c).value
  if (r.canReceive site owner).value then put owner below else below

/-- The owner of a call, if the call has exactly one default method. -/
def adopted (r : Resolver) (site : CallSite) (owner : ClassDecl) : List ClassDecl :=
  if (r.defaultMethods site owner).value.length = 1 then [owner] else []

/-- All targets of a call on a class. -/
def classResult (r : Resolver) (site : CallSite) (owner : ClassDecl) : List ClassDecl :=
  if (r.inherited site owner).isEmpty && !site.isStatic && !site.isObjectMethod then
    r.adopted site owner
  else
    r.inherited site owner

variable {r : Resolver} {site : CallSite} {owner c : ClassDecl}

lemma ascending_candidates (r : Resolver) (site : CallSite) (owner : ClassDecl) :
    Ascending (r.candidates site owner) := by
  rw [candidates]
  split
  · exact List.Pairwise.nil
  · exact Hierarchy.ascending_subclasses _ _

lemma ascending_inherited (r : Resolver) (site : CallSite) (owner : ClassDecl) :
    Ascending (r.inherited site owner) := by
  have hbelow := (r.ascending_candidates site owner).filter fun c => (r.canReceive site c).value
  rw [inherited]
  split
  · exact Hierarchy.pairwise_put owner hbelow
  · exact hbelow

lemma ascending_classResult (r : Resolver) (site : CallSite) (owner : ClassDecl) :
    Ascending (r.classResult site owner) := by
  rw [classResult]
  split
  · rw [adopted]
    split
    · exact List.pairwise_singleton _ _
    · exact List.Pairwise.nil
  · exact r.ascending_inherited site owner

lemma mem_candidates_iff (howner : owner ∈ r.hierarchy.classes) :
    c ∈ r.candidates site owner ↔ site.isStatic = false ∧ c ∈ r.hierarchy.classes ∧ c ≠ owner ∧
      Relation.TransGen r.hierarchy.Extends c owner := by
  rw [candidates]
  cases site.isStatic with
  | true => simp
  | false => simp [Hierarchy.mem_subclasses_iff howner]

/-- What is found without default methods is what the condition says. -/
lemma mem_inherited_iff (howner : owner ∈ r.hierarchy.classes) :
    c ∈ r.inherited site owner ↔ r.ClassTarget site owner c := by
  have hbelow : c ∈ (r.candidates site owner).filter (fun c => (r.canReceive site c).value) ↔
      c ≠ owner ∧ r.ClassTarget site owner c := by
    rw [List.mem_filter, mem_candidates_iff howner, ClassTarget]
    constructor
    · rintro ⟨⟨hvirtual, hc, hne, hpath⟩, hrec⟩
      exact ⟨hne, hc, Or.inr ⟨hvirtual, hpath⟩, (canReceive_eq_true_iff hc).1 hrec⟩
    · rintro ⟨hne, hc, hpath, hrec⟩
      obtain ⟨hvirtual, hpath⟩ := hpath.resolve_left hne
      exact ⟨⟨hvirtual, hc, hne, hpath⟩, (canReceive_eq_true_iff hc).2 hrec⟩
  rw [inherited]
  by_cases hrec : (r.canReceive site owner).value = true
  · have hself : r.ClassTarget site owner owner :=
      ⟨howner, Or.inl rfl, (canReceive_eq_true_iff howner).1 hrec⟩
    rw [if_pos hrec, Hierarchy.mem_put_iff ((r.ascending_candidates site owner).filter _), hbelow]
    constructor
    · rintro (rfl | ⟨⟨-, htarget⟩, -⟩)
      · exact hself
      · exact htarget
    · intro htarget
      by_cases hne : c = owner
      · exact Or.inl hne
      · exact Or.inr ⟨⟨hne, htarget⟩, fun hname => hne (Hierarchy.eq_of_name_eq htarget.1 howner hname)⟩
  · rw [if_neg hrec, hbelow]
    refine ⟨fun htarget => htarget.2, fun htarget => ⟨?_, htarget⟩⟩
    rintro rfl
    exact hrec ((canReceive_eq_true_iff howner).2 htarget.2.2)

lemma adoptsDefault_iff :
    r.AdoptsDefault site owner ↔ site.isStatic = false ∧ site.isObjectMethod = false ∧
      (r.defaultMethods site owner).value.length = 1 := by
  rw [AdoptsDefault, List.length_eq_one_iff]

/-- The default method of the owner is looked at exactly if nothing else is found. -/
lemma classResult_eq (hnil : r.inherited site owner = []) :
    (r.AdoptsDefault site owner → r.classResult site owner = [owner]) ∧
      (¬ r.AdoptsDefault site owner → r.classResult site owner = []) := by
  rw [adoptsDefault_iff, classResult, adopted, hnil]
  cases site.isStatic with
  | true => simp
  | false =>
    cases site.isObjectMethod with
    | true => simp
    | false => simp

lemma classResult_of_ne_nil (hne : r.inherited site owner ≠ []) :
    r.classResult site owner = r.inherited site owner := by
  rw [classResult, if_neg]
  simp [hne]

lemma length_le_length_inherited (r : Resolver) (site : CallSite) (owner : ClassDecl) :
    ((r.candidates site owner).filter fun c => (r.canReceive site c).value).length ≤
      (r.inherited site owner).length := by
  rw [inherited]
  split
  · exact length_le_length_put owner _
  · exact Nat.le_refl _

lemma outcome_defaultTargets (r : Resolver) (site : CallSite) (owner : ClassDecl) :
    (r.defaultTargets site owner).outcome.value = r.bounded owner.name (r.adopted site owner) := by
  rw [defaultTargets, Attempt.value_outcome_lift_bind, adopted]
  rcases (r.defaultMethods site owner).value with _ | ⟨i, _ | ⟨j, is⟩⟩
  · simp
  · exact r.outcome_addTarget owner.name [] owner
  · rw [if_neg (by simp), bounded_nil]
    rfl

lemma inherited_ne_nil {e : Failure} (herr : r.bounded owner.name (r.inherited site owner) = .error e) :
    r.inherited site owner ≠ [] := by
  intro hnil
  rw [hnil, bounded_nil] at herr
  exact absurd herr (by simp)

/-- The last step of collecting targets on a class: default methods are looked at if nothing was found. -/
private lemma outcome_bind_defaultTargets {x : Attempt (List ClassDecl)}
    (hx : x.outcome.value = r.bounded owner.name (r.inherited site owner)) :
    (x >>= fun found =>
        if found.isEmpty && !site.isStatic && !site.isObjectMethod then r.defaultTargets site owner
        else pure found).outcome.value =
      r.bounded owner.name (r.classResult site owner) := by
  rcases r.bounded_cases owner.name (r.inherited site owner) with hok | ⟨e, herr, -⟩
  · rw [Attempt.value_outcome_bind_of_ok (hx.trans hok), classResult]
    split
    · exact r.outcome_defaultTargets site owner
    · exact hok.symm
  · rw [Attempt.value_outcome_bind_of_error (hx.trans herr),
      classResult_of_ne_nil (inherited_ne_nil herr), herr]

/-- The targets on a class, within the limit. -/
lemma outcome_classTargets (hcancel : r.cancelledAfter = none) (site : CallSite) (owner : ClassDecl) :
    (r.classTargets site owner).outcome.value =
      r.bounded owner.name (r.classResult site owner) := by
  have hgather := outcome_gather (r := r) (r.canReceive site) (r.candidates site owner) []
    (r.ascending_candidates site owner) (r.bounded_nil owner.name)
  rw [List.nil_append, ← hcancel] at hgather
  change (r.gather owner.name (r.canReceive site) r.cancelledAfter (r.candidates site owner) [] >>= _).outcome.value = _
  rcases r.bounded_cases owner.name
    ((r.candidates site owner).filter fun c => (r.canReceive site c).value) with hok | ⟨e, herr, hmore⟩
  · rw [Attempt.value_outcome_bind_of_ok (hgather.trans hok), Attempt.value_outcome_lift_bind]
    dsimp only
    by_cases hrec : (r.canReceive site owner).value = true
    · rw [if_pos hrec]
      refine outcome_bind_defaultTargets ?_
      rw [outcome_addTarget, inherited, if_pos hrec]
    · rw [if_neg hrec]
      refine outcome_bind_defaultTargets ?_
      rw [Attempt.value_outcome_pure, inherited, if_neg hrec, hok]
  · -- too many subclasses, whether or not the owner receives the call
    rw [Attempt.value_outcome_bind_of_error (hgather.trans herr)]
    have herr' := hmore _ (r.length_le_length_inherited site owner)
    rw [classResult_of_ne_nil (inherited_ne_nil herr'), herr']

/-! ### Calls on an interface -/

/-- The class `c` implements the owner of a call and receives the call; if only serializable classes are asked for, it
has the marker. -/
def InterfaceTarget (r : Resolver) (site : CallSite) (serializableOnly : Bool) (owner c : ClassDecl) :
    Prop :=
  c ∈ r.hierarchy.classes ∧ r.hierarchy.Implements c owner ∧ r.Receives site c ∧
    (serializableOnly = true → (r.hierarchy.hasMarker serializable c).value = true)

/-- All targets of a call on an interface. -/
def interfaceResult (r : Resolver) (site : CallSite) (serializableOnly : Bool) (owner : ClassDecl) :
    List ClassDecl :=
  (r.hierarchy.implementors owner.name).filter fun c =>
    (r.acceptsImplementor site serializableOnly c).value

lemma ascending_interfaceResult (r : Resolver) (site : CallSite) (serializableOnly : Bool)
    (owner : ClassDecl) : Ascending (r.interfaceResult site serializableOnly owner) :=
  (Hierarchy.ascending_implementors _ _).filter _

lemma acceptsImplementor_eq_true_iff {serializableOnly : Bool} (hc : c ∈ r.hierarchy.classes) :
    (r.acceptsImplementor site serializableOnly c).value = true ↔ r.Receives site c ∧
      (serializableOnly = true → (r.hierarchy.hasMarker serializable c).value = true) := by
  rw [acceptsImplementor, Logged.value_bind, ← canReceive_eq_true_iff hc]
  cases (r.canReceive site c).value with
  | false => simp
  | true => cases serializableOnly <;> simp

lemma mem_interfaceResult_iff {serializableOnly : Bool} (howner : owner ∈ r.hierarchy.classes) :
    c ∈ r.interfaceResult site serializableOnly owner ↔
      r.InterfaceTarget site serializableOnly owner c := by
  rw [interfaceResult, List.mem_filter, Hierarchy.mem_implementors_iff howner, InterfaceTarget]
  constructor
  · rintro ⟨⟨hc, -, himpl⟩, hacc⟩
    exact ⟨hc, himpl, (acceptsImplementor_eq_true_iff hc).1 hacc⟩
  · rintro ⟨hc, himpl, hacc⟩
    exact ⟨⟨hc, hacc.1.1, himpl⟩, (acceptsImplementor_eq_true_iff hc).2 hacc⟩

/-- The reading at the end has no influence on the targets. -/
lemma outcome_interfaceTargets_eq (r : Resolver) (site : CallSite) (owner : ClassDecl)
    (serializableOnly : Bool) :
    (r.interfaceTargets site owner serializableOnly).outcome.value =
      (r.gather owner.name (r.acceptsImplementor site serializableOnly) r.cancelledAfter
        (r.hierarchy.implementors owner.name) []).outcome.value := by
  rw [interfaceTargets, Attempt.value_outcome_bind]
  cases (r.gather owner.name (r.acceptsImplementor site serializableOnly) r.cancelledAfter
    (r.hierarchy.implementors owner.name) []).outcome.value with
  | error e => rfl
  | ok found => cases serializableOnly <;> rfl

/-- The targets on an interface, within the limit. -/
lemma outcome_interfaceTargets (hcancel : r.cancelledAfter = none) (site : CallSite) (owner : ClassDecl)
    (serializableOnly : Bool) :
    (r.interfaceTargets site owner serializableOnly).outcome.value =
      r.bounded owner.name (r.interfaceResult site serializableOnly owner) := by
  have hgather := outcome_gather (r := r) (r.acceptsImplementor site serializableOnly)
    (r.hierarchy.implementors owner.name) [] (Hierarchy.ascending_implementors _ _)
    (r.bounded_nil owner.name)
  rw [outcome_interfaceTargets_eq, hcancel, hgather, List.nil_append]
  rfl

/-! ### The two descriptions -/

/-- A resolver for the hierarchy of some declarations, without a limit. -/
def unlimited (cs : List ClassDecl) (policy : DispatchPolicy) : Resolver :=
  { hierarchy := (Hierarchy.ofList cs).value, policy := policy }

/-- Ascending names ascend byte by byte. -/
lemma pairwise_utf8Bytes {ds : List ClassDecl} (hds : Ascending ds) :
    ds.Pairwise fun c d => utf8Bytes c.name < utf8Bytes d.name :=
  hds.imp lt_iff_utf8Bytes_lt.1

/-- **The targets of a call on a class** are the classes that inherit a method for it, among the owner and its
subclasses. If there are none, the owner is the only target or there is none, depending on default methods. -/
theorem resolve_on_class (cs : List ClassDecl) (policy : DispatchPolicy) (site : CallSite)
    (options : DispatchOptions) (owner : ClassDecl)
    (howner : (unlimited cs policy).hierarchy.find? site.owner = some owner)
    (hcls : owner.isInterface = false) (hexact : options.exactType = false)
    (hshort : (unlimited cs policy).shortcut? site = none) :
    ∃ targets, ((unlimited cs policy).resolve site options).value.outcome = .ok targets ∧
      (targets.Pairwise fun c d => utf8Bytes c.name < utf8Bytes d.name) ∧
      ((∃ c, (unlimited cs policy).ClassTarget site owner c) →
        ∀ c, c ∈ targets ↔ (unlimited cs policy).ClassTarget site owner c) ∧
      ((¬ ∃ c, (unlimited cs policy).ClassTarget site owner c) →
        ((unlimited cs policy).AdoptsDefault site owner → targets = [owner]) ∧
        (¬ (unlimited cs policy).AdoptsDefault site owner → targets = [])) := by
  have hmem := Hierarchy.mem_of_find?_eq_some howner
  refine ⟨(unlimited cs policy).classResult site owner, ?_,
    pairwise_utf8Bytes (ascending_classResult _ site owner), ?_, ?_⟩
  · rw [outcome_resolve hshort howner, ownerTargets, if_neg (by simp [hexact]), if_neg (by simp [hcls]),
      outcome_classTargets rfl, bounded_eq_ok rfl]
  · rintro ⟨d, hd⟩ c
    have hne : (unlimited cs policy).inherited site owner ≠ [] :=
      List.ne_nil_of_mem ((mem_inherited_iff hmem).2 hd)
    rw [classResult_of_ne_nil hne, mem_inherited_iff hmem]
  · intro hnone
    have hnil : (unlimited cs policy).inherited site owner = [] := by
      refine List.eq_nil_iff_forall_not_mem.2 fun c hc => hnone ⟨c, ?_⟩
      exact (mem_inherited_iff hmem).1 hc
    exact classResult_eq hnil

/-- An interface. -/
def taskInterface : ClassDecl :=
  ⟨"a.Task", .interface ||| .abstract, none, [], .topLevel, [⟨"run", .abstract, [], .void⟩]⟩

/-- An abstract class with a method.  Its superclass is not declared. -/
def taskJob : ClassDecl :=
  ⟨"a.Job", .abstract, some "java.lang.Object", ["a.Task"], .topLevel, [⟨"run", 0, [], .void⟩]⟩

/-- A subclass of it. -/
def taskRetry : ClassDecl := ⟨"a.Retry", 0, some "a.Job", [], .topLevel, []⟩

/-- An implementor without a method. -/
def taskUp : ClassDecl := ⟨"a.Up", 0, some "a.Down", ["a.Task"], .topLevel, []⟩

/-- Its superclass, which extends it. -/
def taskDown : ClassDecl := ⟨"a.Down", 0, some "a.Up", [], .topLevel, []⟩

/-- All these declarations, and an earlier one of the subclass. -/
def tasks : List ClassDecl :=
  [taskInterface, ⟨"a.Retry", .interface, none, [], .topLevel, []⟩, taskJob, taskRetry, taskUp, taskDown]

/-- The call of `run` on the class or interface `owner`. -/
def runOn (owner : ClassName) : CallSite := ⟨owner, "run", "()V", false, none, none⟩

lemma receives_taskRetry (owner : ClassName) : (unlimited tasks {}).Receives (runOn owner) taskRetry := by
  have hup : (unlimited tasks {}).hierarchy.Extends taskRetry taskJob := ⟨by decide, rfl⟩
  exact ⟨by decide, Or.inl (by decide), taskJob, .single ⟨hup, by decide⟩, rfl⟩

/-- The abstract class has no instances of its own. -/
lemma canReceive_taskJob (owner : ClassName) :
    ((unlimited tasks {}).canReceive (runOn owner) taskJob).value = false := by
  refine Bool.eq_false_iff.2 fun htrue => ?_
  obtain ⟨-, habstract | hstatic, -⟩ := (canReceive_eq_true_iff (by decide)).1 htrue
  · exact absurd habstract (by decide)
  · exact absurd hstatic (by simp [runOn])

/-- Only the subclass is a target of a call on the abstract class. -/
theorem resolve_on_class_tasks :
    (unlimited tasks {}).hierarchy.find? (runOn "a.Job").owner = some taskJob ∧
      taskJob.isInterface = false ∧ (unlimited tasks {}).shortcut? (runOn "a.Job") = none ∧
      (unlimited tasks {}).ClassTarget (runOn "a.Job") taskJob taskRetry ∧
      ((unlimited tasks {}).resolve (runOn "a.Job") {}).value.outcome = .ok [taskRetry] ∧
      ∀ c, c ∈ [taskRetry] ↔ (unlimited tasks {}).ClassTarget (runOn "a.Job") taskJob c := by
  have howner : (unlimited tasks {}).hierarchy.find? (runOn "a.Job").owner = some taskJob := by decide
  have hbelow : (unlimited tasks {}).candidates (runOn "a.Job") taskJob = [taskRetry] := by cbv
  have hretry : ((unlimited tasks {}).canReceive (runOn "a.Job") taskRetry).value = true :=
    (canReceive_eq_true_iff (by decide)).2 (receives_taskRetry "a.Job")
  have hinherited : (unlimited tasks {}).inherited (runOn "a.Job") taskJob = [taskRetry] := by
    rw [inherited, hbelow, if_neg (by simp [canReceive_taskJob]), List.filter_cons, if_pos hretry]
    rfl
  have htarget : (unlimited tasks {}).ClassTarget (runOn "a.Job") taskJob taskRetry :=
    (mem_inherited_iff (by decide)).1 (by simp [hinherited])
  obtain ⟨targets, hok, -, hsome, -⟩ :=
    resolve_on_class tasks {} (runOn "a.Job") {} taskJob howner (by decide) rfl (by decide)
  obtain rfl : targets = [taskRetry] := by
    rw [outcome_resolve (by decide) howner, ownerTargets, if_neg (by decide), if_neg (by decide),
      outcome_classTargets rfl, bounded_eq_ok rfl, classResult_of_ne_nil (by simp [hinherited]),
      hinherited] at hok
    exact (Except.ok.inj hok).symm
  exact ⟨howner, by decide, by decide, htarget, hok, hsome ⟨taskRetry, htarget⟩⟩

/-- **The targets of a call on an interface** are its implementors that inherit a method for the call. -/
theorem resolve_on_interface (cs : List ClassDecl) (policy : DispatchPolicy) (site : CallSite)
    (options : DispatchOptions) (owner : ClassDecl)
    (howner : (unlimited cs policy).hierarchy.find? site.owner = some owner)
    (hint : owner.isInterface = true) (hshort : (unlimited cs policy).shortcut? site = none) :
    ∃ targets, ((unlimited cs policy).resolve site options).value.outcome = .ok targets ∧
      (targets.Pairwise fun c d => utf8Bytes c.name < utf8Bytes d.name) ∧
      ∀ c, c ∈ targets ↔
        (unlimited cs policy).InterfaceTarget site options.serializableOnly owner c := by
  have hmem := Hierarchy.mem_of_find?_eq_some howner
  refine ⟨(unlimited cs policy).interfaceResult site options.serializableOnly owner, ?_,
    pairwise_utf8Bytes (ascending_interfaceResult _ site _ owner), fun c => mem_interfaceResult_iff hmem⟩
  rw [outcome_resolve hshort howner, ownerTargets, if_neg (by simp [hint]), if_pos hint,
    outcome_interfaceTargets rfl, bounded_eq_ok rfl]

/-- The classes that extend each other have no method for the call. -/
lemma canReceive_of_loop (owner : ClassName) (hc : c = taskUp ∨ c = taskDown) :
    ((unlimited tasks {}).canReceive (runOn owner) c).value = false := by
  have hup : taskUp ∈ (unlimited tasks {}).hierarchy.classes := by decide
  have hdown : taskDown ∈ (unlimited tasks {}).hierarchy.classes := by decide
  have hloop : ∀ d, (unlimited tasks {}).hierarchy.InheritsFrom c d → d = taskUp ∨ d = taskDown := by
    intro d hpath
    induction hpath with
    | refl => exact hc
    | @tail d e _ hde ih =>
      obtain ⟨⟨he, hsuper⟩, -⟩ := hde
      rcases ih with rfl | rfl
      · exact Or.inr (Hierarchy.eq_of_name_eq he hdown (Option.some.inj hsuper).symm)
      · exact Or.inl (Hierarchy.eq_of_name_eq he hup (Option.some.inj hsuper).symm)
  have hmem : c ∈ (unlimited tasks {}).hierarchy.classes := by
    rcases hc with rfl | rfl
    · exact hup
    · exact hdown
  refine Bool.eq_false_iff.2 fun htrue => ?_
  obtain ⟨-, -, d, hpath, hdeclares⟩ := (canReceive_eq_true_iff hmem).1 htrue
  rcases hloop d hpath with rfl | rfl <;> cases hdeclares

/-- Of the four implementors only one receives the call. -/
theorem resolve_on_interface_tasks :
    (unlimited tasks {}).hierarchy.find? (runOn "a.Task").owner = some taskInterface ∧
      taskInterface.isInterface = true ∧ (unlimited tasks {}).shortcut? (runOn "a.Task") = none ∧
      (unlimited tasks {}).hierarchy.implementors "a.Task" = [taskDown, taskJob, taskRetry, taskUp] ∧
      ((unlimited tasks {}).resolve (runOn "a.Task") {}).value.outcome = .ok [taskRetry] ∧
      ∀ c, c ∈ [taskRetry] ↔
        (unlimited tasks {}).InterfaceTarget (runOn "a.Task") false taskInterface c := by
  have howner : (unlimited tasks {}).hierarchy.find? (runOn "a.Task").owner = some taskInterface := by decide
  have himpl : (unlimited tasks {}).hierarchy.implementors taskInterface.name =
      [taskDown, taskJob, taskRetry, taskUp] := by cbv
  have haccepts : ∀ c, ((unlimited tasks {}).acceptsImplementor (runOn "a.Task") false c).value =
      ((unlimited tasks {}).canReceive (runOn "a.Task") c).value := by
    intro c
    rw [acceptsImplementor, Logged.value_bind]
    cases ((unlimited tasks {}).canReceive (runOn "a.Task") c).value <;> rfl
  have hretry : ((unlimited tasks {}).canReceive (runOn "a.Task") taskRetry).value = true :=
    (canReceive_eq_true_iff (by decide)).2 (receives_taskRetry "a.Task")
  have hresult : (unlimited tasks {}).interfaceResult (runOn "a.Task") false taskInterface = [taskRetry] := by
    simp [interfaceResult, himpl, haccepts, hretry, canReceive_taskJob, canReceive_of_loop _ (Or.inl rfl),
      canReceive_of_loop _ (Or.inr rfl)]
  obtain ⟨targets, hok, -, hmem⟩ :=
    resolve_on_interface tasks {} (runOn "a.Task") {} taskInterface howner (by decide) (by decide)
  obtain rfl : targets = [taskRetry] := by
    rw [outcome_resolve (by decide) howner, ownerTargets, if_neg (by decide), if_pos (by decide),
      outcome_interfaceTargets rfl, bounded_eq_ok rfl] at hok
    exact (Except.ok.inj hok).symm.trans hresult
  exact ⟨howner, by decide, by decide, himpl, hok, hmem⟩

end Resolver

end CallTargets
