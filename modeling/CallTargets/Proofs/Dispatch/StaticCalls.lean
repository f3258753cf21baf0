import CallTargets.Proofs.Dispatch.Limits

/-!
# Static calls

A static method is bound to the class that it is called on, and no subclass overrides it.  On a class, static calls are
resolved accordingly.  On an interface they are resolved like any other call, and so they leave their owner.

* `Resolver.StaticTarget`: the exact condition on a class to be a target of a static call.
* `static_targets`: resolving a static call lists the classes that meet it, and the call stays on its owner exactly if
  that is not an interface of which an implementor receives the call.
* `static_call_leaves_owner`: a static call on an interface that is resolved to a class.
-/

namespace CallTargets

namespace Resolver

variable {r : Resolver} {site : CallSite} {options : DispatchOptions} {owner c : ClassDecl}
  {found : List ClassDecl}

/-- All targets of a call are the class or interface that it is called on. -/
def StaysOnOwner (r : Resolver) (site : CallSite) (found : List ClassDecl) : Prop :=
  ∀ c ∈ found, r.hierarchy.find? site.owner = some c

/-- The class `c` is a target of a static call on the declaration `owner`.  For an interface it is an implementor that
receives the call.  For a class it is the class itself, provided that it receives the call or is known to do so. -/
def StaticTargetOn (r : Resolver) (site : CallSite) (options : DispatchOptions) (owner c : ClassDecl) :
    Prop :=
  owner.isInterface = true ∧ r.InterfaceTarget site options.serializableOnly owner c ∨
    owner.isInterface = false ∧ c = owner ∧ (options.exactType = true ∨ r.Receives site owner)

/-- The class `c` is a target of a static call. -/
def StaticTarget (r : Resolver) (site : CallSite) (options : DispatchOptions) (c : ClassDecl) : Prop :=
  ∃ owner, r.hierarchy.find? site.owner = some owner ∧ r.StaticTargetOn site options owner c

/-- The owner of a call is an interface, and the call has a target among its implementors. -/
def ReachesImplementor (r : Resolver) (site : CallSite) (options : DispatchOptions) : Prop :=
  ∃ owner, r.hierarchy.find? site.owner = some owner ∧ owner.isInterface = true ∧
    ∃ c, r.InterfaceTarget site options.serializableOnly owner c

lemma knownReceiver_static_iff (hstatic : site.isStatic = true) :
    KnownReceiver site options owner ↔ options.exactType = true ∧ owner.isInterface = false := by
  simp [KnownReceiver, hstatic]

/-- A static call on a class has no other target than the class. -/
lemma mem_classResult_static_iff (hstatic : site.isStatic = true) (howner : owner ∈ r.hierarchy.classes) :
    c ∈ r.classResult site owner ↔ c = owner ∧ r.Receives site owner := by
  have hresult : r.classResult site owner = r.inherited site owner := by
    rw [classResult, if_neg (by simp [hstatic])]
  rw [hresult, mem_inherited_iff howner]
  constructor
  · rintro ⟨-, hpath, hrec⟩
    obtain rfl : c = owner := hpath.resolve_right fun hbelow => by simp [hstatic] at hbelow
    exact ⟨rfl, hrec⟩
  · rintro ⟨rfl, hrec⟩
    exact ⟨howner, Or.inl rfl, hrec⟩

lemma mem_searchResult_static_iff (hstatic : site.isStatic = true)
    (hs : r.Searched site options owner) :
    c ∈ r.searchResult site options owner ↔ r.StaticTargetOn site options owner c := by
  have howner := Hierarchy.mem_of_find?_eq_some hs.2
  rw [searchResult, StaticTargetOn]
  cases hint : owner.isInterface with
  | true => simpa using mem_interfaceResult_iff howner
  | false =>
    -- were the receiver's class known, there would be no search
    have hexact : options.exactType ≠ true := fun hexact =>
      hs.not_known ((knownReceiver_static_iff hstatic).2 ⟨hexact, hint⟩)
    simpa [hexact] using mem_classResult_static_iff hstatic howner

/-- The condition on targets is exact. -/
lemma mem_static_iff (hstatic : site.isStatic = true) (hget : site.isGetClass = false)
    (hok : (r.resolve site options).value.outcome = .ok found) :
    c ∈ found ↔ r.StaticTarget site options c := by
  rcases found_cases hget hok with ⟨howner, rfl⟩ | ⟨owner, howner, hcases⟩
  · simp [StaticTarget, howner]
  · have htarget : r.StaticTarget site options c ↔ r.StaticTargetOn site options owner c := by
      simp [StaticTarget, howner]
    rw [htarget]
    rcases hcases with ⟨hknown, rfl⟩ | ⟨hs, rfl⟩
    · obtain ⟨hexact, hcls⟩ := (knownReceiver_static_iff hstatic).1 hknown
      simp [StaticTargetOn, hexact, hcls]
    · exact mem_searchResult_static_iff hstatic hs

/-- **The targets of a static call**, for any limit and cancelled or not.  A call on a class stays on the class.  A call
on an interface goes to the implementors that receive it, and so it stays on the interface only if there are none. -/
theorem static_targets (r : Resolver) (site : CallSite) (options : DispatchOptions)
    (found : List ClassDecl) (hstatic : site.isStatic = true) (hget : site.isGetClass = false)
    (hok : (r.resolve site options).value.outcome = .ok found) :
    (∀ c, c ∈ found ↔ r.StaticTarget site options c) ∧
      (r.StaysOnOwner site found ↔ ¬ r.ReachesImplementor site options) := by
  have hmem : ∀ c, c ∈ found ↔ r.StaticTarget site options c :=
    fun c => mem_static_iff hstatic hget hok
  refine ⟨hmem, ?_, ?_⟩
  · rintro hstays ⟨owner, howner, hint, c, hc⟩
    have hfound : c ∈ found := (hmem c).2 ⟨owner, howner, Or.inl ⟨hint, hc⟩⟩
    obtain rfl : owner = c := Option.some.inj (howner.symm.trans (hstays c hfound))
    -- an interface receives no call
    have hcls : owner.isInterface = false := hc.2.2.1.1
    exact absurd (hcls.symm.trans hint) (by simp)
  · intro hnone c hc
    obtain ⟨owner, howner, ⟨hint, htarget⟩ | ⟨-, rfl, -⟩⟩ := (hmem c).1 hc
    · exact absurd ⟨owner, howner, hint, c, htarget⟩ hnone
    · exact howner

/-- An interface with a static method. -/
def tools : ClassDecl :=
  ⟨"a.Tools", .interface ||| .abstract, none, [], .topLevel, [⟨"help", .static, [], .void⟩]⟩

/-- A class that implements the interface and has a static method of its own with the same name. -/
def kit : ClassDecl := ⟨"a.Kit", 0, none, ["a.Tools"], .topLevel, [⟨"help", .static, [], .void⟩]⟩

/-- The static call of `help` on the class or interface `owner`. -/
def helpOn (owner : ClassDecl) : CallSite := ⟨owner.name, "help", "()V", true, none, none⟩

lemma receives_kit (owner : ClassDecl) : (unlimited [tools, kit] {}).Receives (helpOn owner) kit :=
  ⟨by decide, Or.inr rfl, kit, Relation.ReflTransGen.refl, by cbv⟩

lemma interfaceTarget_kit : (unlimited [tools, kit] {}).InterfaceTarget (helpOn tools) false tools kit := by
  have himpl : (unlimited [tools, kit] {}).hierarchy.Implements kit tools :=
    ⟨kit, by decide, by decide, Relation.ReflTransGen.refl, tools, by decide, by decide,
      Relation.ReflTransGen.refl⟩
  exact ⟨by decide, himpl, receives_kit tools, by simp⟩

lemma searched_tools (howner : owner = tools ∨ owner = kit) :
    (unlimited [tools, kit] {}).Searched (helpOn owner) {} owner := by
  refine searched_of_not_known (shortcut?_of_not_getClass rfl) ?_ fun hknown => absurd hknown.1 (by decide)
  rcases howner with rfl | rfl <;> decide

lemma outcome_helpOn (howner : owner = tools ∨ owner = kit) :
    ((unlimited [tools, kit] {}).resolve (helpOn owner) {}).value.outcome =
      .ok ((unlimited [tools, kit] {}).searchResult (helpOn owner) {} owner) :=
  outcome_resolve_searched (searched_tools howner) none

/-- A static call on an interface is resolved to an implementor, although a static method is bound to its owner. -/
theorem static_call_leaves_owner :
    (helpOn tools).isStatic = true ∧ (helpOn tools).isGetClass = false ∧
      ∃ found, ((unlimited [tools, kit] {}).resolve (helpOn tools) {}).value.outcome = .ok found ∧
        kit ∈ found ∧ ¬ (unlimited [tools, kit] {}).StaysOnOwner (helpOn tools) found := by
  have hkit : kit ∈ (unlimited [tools, kit] {}).searchResult (helpOn tools) {} tools :=
    (mem_interfaceResult_iff (by decide)).2 interfaceTarget_kit
  refine ⟨rfl, by decide, _, outcome_helpOn (Or.inl rfl), hkit, fun hstays => ?_⟩
  exact absurd (hstays kit hkit) (by decide)

/-- A static call on a class that stays there. -/
theorem static_targets_kit :
    (helpOn kit).isStatic = true ∧ (helpOn kit).isGetClass = false ∧
      ∃ found, ((unlimited [tools, kit] {}).resolve (helpOn kit) {}).value.outcome = .ok found ∧
        kit ∈ found ∧ (unlimited [tools, kit] {}).StaysOnOwner (helpOn kit) found := by
  have hfind : (unlimited [tools, kit] {}).hierarchy.find? (helpOn kit).owner = some kit := by
    decide
  have hok := outcome_helpOn (Or.inr (Eq.refl kit))
  obtain ⟨hmem, hstays⟩ := static_targets (unlimited [tools, kit] {}) (helpOn kit) {} _ rfl (by decide) hok
  refine ⟨rfl, by decide, _, hok, ?_, hstays.2 ?_⟩
  · exact (hmem kit).2 ⟨kit, hfind, Or.inr ⟨by decide, rfl, Or.inr (receives_kit kit)⟩⟩
  · rintro ⟨owner, howner, hint, -⟩
    obtain rfl : kit = owner := Option.some.inj (hfind.symm.trans howner)
    exact absurd hint (by decide)

end Resolver

end CallTargets
