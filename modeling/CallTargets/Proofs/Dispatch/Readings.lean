import CallTargets.Proofs.Dispatch.Collect

/-!
# The readings of a call

Readings are taken while the targets of a call are looked for, and what has been taken is kept if the search fails
later.  So a call that fails leaves no reading behind only because none is taken before the last point at which it can
fail: gathering takes none, and the reading of an unbounded call comes after the last implementor.

* `readings_gather`: no reading is taken while classes are examined, whatever stops that.
* `readings_ownerTargets`: what has been taken when the targets on a declared owner are there, or not.
* `readings_resolve_cases`: the readings of a call.
-/

namespace CallTargets

namespace Resolver

variable {r : Resolver} {site : CallSite} {owner : ClassDecl}

lemma readings_addTarget (r : Resolver) (name : ClassName) (found : List ClassDecl) (c : ClassDecl) :
    (r.addTarget name found c).readings = [] := by
  unfold addTarget
  cases r.limit with
  | none => rfl
  | some limit =>
    dsimp only
    split <;> rfl

/-- **No reading is taken while classes are examined**, whether or not the limit or a cancellation stops it. -/
lemma readings_gather (name : ClassName) (accept : ClassDecl → Logged Bool) (looks : Option Nat)
    (cs found : List ClassDecl) : (r.gather name accept looks cs found).readings = [] := by
  induction cs generalizing looks found with
  | nil => rfl
  | cons c cs ih =>
    rw [gather]
    split
    · rfl
    · refine Attempt.readings_bind_eq_nil rfl fun accepted => ?_
      cases accepted with
      | true => exact Attempt.readings_bind_eq_nil (r.readings_addTarget name found c) fun found => ih _ found
      | false => exact ih _ found

/-- The reading of an unbounded call is taken if all implementors have been gone through. -/
lemma readings_interfaceTargets (r : Resolver) (site : CallSite) (owner : ClassDecl) (serializableOnly : Bool) :
    (r.interfaceTargets site owner serializableOnly).readings =
      match (r.interfaceTargets site owner serializableOnly).outcome.value with
      | .ok _ => if serializableOnly then [] else [.unbounded owner.name]
      | .error _ => [] := by
  rw [interfaceTargets, Attempt.readings_bind, Attempt.value_outcome_bind, readings_gather]
  cases (r.gather owner.name (r.acceptsImplementor site serializableOnly) r.cancelledAfter
    (r.hierarchy.implementors owner.name) []).outcome.value with
  | error e => rfl
  | ok found => cases serializableOnly <;> rfl

lemma readings_defaultTargets (r : Resolver) (site : CallSite) (owner : ClassDecl) :
    (r.defaultTargets site owner).readings = [] := by
  refine Attempt.readings_bind_eq_nil rfl fun interfaces => ?_
  rcases interfaces with _ | ⟨i, _ | ⟨j, is⟩⟩
  · rfl
  · exact Attempt.readings_bind_eq_nil rfl fun _ => r.readings_addTarget owner.name [] owner
  · rfl

lemma readings_classTargets (r : Resolver) (site : CallSite) (owner : ClassDecl) :
    (r.classTargets site owner).readings = [] := by
  -- the default method comes last, whether or not the owner was added before
  have hlast : ∀ found : List ClassDecl,
      (if found.isEmpty && !site.isStatic && !site.isObjectMethod then r.defaultTargets site owner
        else pure found : Attempt (List ClassDecl)).readings = [] := by
    intro found
    split
    · exact r.readings_defaultTargets site owner
    · rfl
  refine Attempt.readings_bind_eq_nil (readings_gather _ _ _ _ _) fun found => ?_
  refine Attempt.readings_bind_eq_nil rfl fun received => ?_
  cases received with
  | true => exact Attempt.readings_bind_eq_nil (r.readings_addTarget owner.name found owner) hlast
  | false => exact Attempt.readings_bind_eq_nil rfl hlast

/-- The reading that says that a call on `owner` was unbounded, if it was. -/
def unboundedReading (options : DispatchOptions) (owner : ClassDecl) : List Reading :=
  if owner.isInterface && !options.serializableOnly then [.unbounded owner.name] else []

lemma readings_ownerTargets (r : Resolver) (site : CallSite) (options : DispatchOptions) (owner : ClassDecl) :
    (r.ownerTargets site options owner).readings =
      match (r.ownerTargets site options owner).outcome.value with
      | .ok _ => unboundedReading options owner
      | .error _ => [] := by
  cases hint : owner.isInterface with
  | true =>
    have htargets : r.ownerTargets site options owner = r.interfaceTargets site owner options.serializableOnly := by
      rw [ownerTargets, if_neg (by simp [hint]), if_pos hint]
    rw [htargets, readings_interfaceTargets, unboundedReading, hint]
    cases options.serializableOnly <;> rfl
  | false =>
    -- a class takes no reading here, with a known receiver or with a search
    have hnone : (r.ownerTargets site options owner).readings = [] := by
      rw [ownerTargets]
      split
      · rfl
      · rw [if_neg (by simp [hint])]
        exact r.readings_classTargets site owner
    have hbounded : unboundedReading options owner = [] := by simp [unboundedReading, hint]
    rw [hnone, hbounded]
    cases (r.ownerTargets site options owner).outcome.value <;> rfl

/-- The number of targets is the last reading that is taken. -/
lemma readings_resolve_of_declared (options : DispatchOptions) (hshort : r.shortcut? site = none)
    (howner : r.hierarchy.find? site.owner = some owner) :
    (r.resolve site options).value.readings =
      match (r.resolve site options).value.outcome with
      | .ok targets => unboundedReading options owner ++ [.fanout owner.name targets.length]
      | .error _ => [] := by
  rw [outcome_resolve hshort howner]
  change (r.targets site options).readings = _
  rw [targets, hshort, howner]
  dsimp only
  rw [Attempt.readings_bind, readings_ownerTargets]
  cases (r.ownerTargets site options owner).outcome.value with
  | ok targets => rfl
  | error e => rfl

/-- **The readings of a call** that succeeds on its owner tell whether it was unbounded and how many targets it has.
There are none if it fails, if its owner is missing, or if it asks for a class. -/
lemma readings_resolve_cases (r : Resolver) (site : CallSite) (options : DispatchOptions) :
    (∃ owner targets, r.shortcut? site = none ∧ r.hierarchy.find? site.owner = some owner ∧
        (r.resolve site options).value.outcome = .ok targets ∧
        (r.resolve site options).value.readings =
          unboundedReading options owner ++ [.fanout owner.name targets.length]) ∨
      (r.resolve site options).value.readings = [] ∧
        ((r.shortcut? site).isSome ∨ r.hierarchy.find? site.owner = none ∨
          ∃ e, (r.resolve site options).value.outcome = .error e) := by
  cases hshort : r.shortcut? site with
  | some root =>
    rw [resolve, targets, hshort]
    exact Or.inr ⟨rfl, Or.inl rfl⟩
  | none =>
    cases howner : r.hierarchy.find? site.owner with
    | none =>
      rw [resolve, targets, hshort, howner]
      exact Or.inr ⟨rfl, Or.inr (Or.inl rfl)⟩
    | some owner =>
      have hreadings := readings_resolve_of_declared options hshort howner
      cases hout : (r.resolve site options).value.outcome with
      | error e =>
        rw [hout] at hreadings
        exact Or.inr ⟨hreadings, Or.inr (Or.inr ⟨e, rfl⟩)⟩
      | ok targets =>
        rw [hout] at hreadings
        exact Or.inl ⟨owner, targets, rfl, rfl, rfl, hreadings⟩

end Resolver

end CallTargets
