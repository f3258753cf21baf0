import CallTargets.Proofs.Dispatch.Targets

/-!
# Limits and cancellation

A limit on the number of targets and a cancellation may make a call fail.  They never change the targets of a call that
does not fail.

Which classes receive a call, and which interfaces have a default method for it, depends neither on the limit nor on the
cancellation: this is what the lemmas `…_restricted` say.  The limit is looked at whenever a class is added to the targets,
and the cancellation whenever a class is examined.

* `Resolver.Immediate`: a call is answered without looking at any class but one.
* `Resolver.Interruptible`: a class is examined, so that a cancellation is noticed.
* `outcome_resolve_searched`: a call that is not answered immediately has the targets that it has without a limit, or too
  many.
* `outcome_resolve_eq_cancelled_iff`: when a cancellation at any moment is noticed.
* `resolve_of_not_cancelled`: a cancellation that is not noticed changes nothing.
* `resolve_restricted` puts this together.
-/

namespace CallTargets

namespace Resolver

open Hierarchy (Ascending)

variable {r : Resolver} {site : CallSite} {options : DispatchOptions} {owner c : ClassDecl}
  {limit looks : Option Nat}

/-- The resolver with another limit, where a cancellation, if any, is noticed after `looks` looks. -/
def restricted (r : Resolver) (limit looks : Option Nat) : Resolver :=
  { r with limit := limit, cancelledAfter := looks }

/-! ### What does not depend on limit and cancellation -/

@[simp] lemma hierarchy_restricted : (r.restricted limit looks).hierarchy = r.hierarchy := rfl

@[simp] lemma shortcut?_restricted (site : CallSite) :
    (r.restricted limit looks).shortcut? site = r.shortcut? site := rfl

lemma declaresAmong_restricted (ms : List MethodDecl) :
    (r.restricted limit looks).declaresAmong site c ms = r.declaresAmong site c ms := by
  induction ms with
  | nil => rfl
  | cons m ms ih =>
    rw [declaresAmong, declaresAmong, ih]
    rfl

lemma someDeclares_restricted (site : CallSite) :
    (r.restricted limit looks).someDeclares site = r.someDeclares site := by
  funext cs
  induction cs with
  | nil => rfl
  | cons c cs ih =>
    rw [someDeclares, someDeclares, ih, declares, declaresAmong_restricted]
    rfl

@[simp] lemma canReceive_restricted (site : CallSite) :
    (r.restricted limit looks).canReceive site = r.canReceive site := by
  funext c
  rw [canReceive, canReceive, inherits, inherits, someDeclares_restricted]
  rfl

@[simp] lemma acceptsImplementor_restricted (site : CallSite) (serializableOnly : Bool) :
    (r.restricted limit looks).acceptsImplementor site serializableOnly =
      r.acceptsImplementor site serializableOnly := by
  funext c
  rw [acceptsImplementor, acceptsImplementor, canReceive_restricted]
  rfl

lemma visitDefault_restricted (site : CallSite) :
    (r.restricted limit looks).visitDefault site = r.visitDefault site := by
  funext node c hits
  cases node with
  | cls name => rfl
  | interface name =>
    rw [visitDefault, visitDefault, declares, declaresAmong_restricted]
    rfl

@[simp] lemma defaultMethods_restricted (site : CallSite) (c : ClassDecl) :
    (r.restricted limit looks).defaultMethods site c = r.defaultMethods site c := by
  rw [defaultMethods, defaultMethods, visitDefault_restricted]
  rfl

@[simp] lemma candidates_restricted (site : CallSite) (owner : ClassDecl) :
    (r.restricted limit looks).candidates site owner = r.candidates site owner := rfl

@[simp] lemma classResult_restricted (site : CallSite) (owner : ClassDecl) :
    (r.restricted limit looks).classResult site owner = r.classResult site owner := by
  have hinherited : (r.restricted limit looks).inherited site owner = r.inherited site owner := by
    rw [inherited, inherited, canReceive_restricted, candidates_restricted]
  have hadopted : (r.restricted limit looks).adopted site owner = r.adopted site owner := by
    rw [adopted, adopted, defaultMethods_restricted]
  rw [classResult, classResult, hinherited, hadopted]

@[simp] lemma interfaceResult_restricted (site : CallSite) (serializableOnly : Bool) (owner : ClassDecl) :
    (r.restricted limit looks).interfaceResult site serializableOnly owner =
      r.interfaceResult site serializableOnly owner := by
  rw [interfaceResult, interfaceResult, acceptsImplementor_restricted]
  rfl

/-! ### Calls that are answered immediately -/

/-- The receiver of a call is known to be of the owner's very class. -/
def KnownReceiver (site : CallSite) (options : DispatchOptions) (owner : ClassDecl) : Prop :=
  options.exactType = true ∧ owner.isInterface = false ∧ (site.isStatic = true ∨ owner.isAbstract = false)

/-- A call is answered without a search: it asks an object for its class, or the class of the receiver is known. -/
def Immediate (r : Resolver) (site : CallSite) (options : DispatchOptions) : Prop :=
  (r.shortcut? site).isSome ∨
    ∃ owner, r.hierarchy.find? site.owner = some owner ∧ KnownReceiver site options owner

/-- A call is answered by a search that starts at the declaration `owner`. -/
def Searched (r : Resolver) (site : CallSite) (options : DispatchOptions) (owner : ClassDecl) : Prop :=
  ¬ r.Immediate site options ∧ r.hierarchy.find? site.owner = some owner

/-- The classes that a search examines one after the other. -/
def examined (r : Resolver) (site : CallSite) (owner : ClassDecl) : List ClassDecl :=
  if owner.isInterface then r.hierarchy.implementors owner.name else r.candidates site owner

/-- The search for the targets of a call examines a class, so that it can be interrupted. -/
def Interruptible (r : Resolver) (site : CallSite) (options : DispatchOptions) : Prop :=
  ∃ owner, r.Searched site options owner ∧ r.examined site owner ≠ []

/-- The targets that a search ends with if nothing stops it. -/
def searchResult (r : Resolver) (site : CallSite) (options : DispatchOptions) (owner : ClassDecl) :
    List ClassDecl :=
  if owner.isInterface then r.interfaceResult site options.serializableOnly owner
  else r.classResult site owner

lemma knownReceiver_iff :
    KnownReceiver site options owner ↔
      (options.exactType && !owner.isInterface && (site.isStatic || !owner.isAbstract)) = true := by
  simp [KnownReceiver, and_assoc]

lemma ownerTargets_of_known (hknown : KnownReceiver site options owner) :
    r.ownerTargets site options owner = pure [owner] := by
  rw [ownerTargets, if_pos (knownReceiver_iff.1 hknown)]

lemma ownerTargets_of_not_known (hknown : ¬ KnownReceiver site options owner) :
    r.ownerTargets site options owner =
      if owner.isInterface then r.interfaceTargets site owner options.serializableOnly
      else r.classTargets site owner := by
  rw [ownerTargets, if_neg (mt knownReceiver_iff.2 hknown)]

lemma shortcut?_of_not_getClass (hget : site.isGetClass = false) : r.shortcut? site = none := by
  rw [shortcut?, if_neg (by simp [hget])]

lemma shortcut?_of_not_immediate (him : ¬ r.Immediate site options) : r.shortcut? site = none := by
  by_contra hne
  exact him (Or.inl (Option.isSome_iff_ne_none.2 hne))

/-- A call that is answered immediately is answered by the root class's final method, or otherwise by its owner. -/
lemma Immediate.cases (him : r.Immediate site options) :
    (∃ root, r.shortcut? site = some root) ∨
      r.shortcut? site = none ∧
        ∃ owner, r.hierarchy.find? site.owner = some owner ∧ KnownReceiver site options owner := by
  cases hshort : r.shortcut? site with
  | some root => exact Or.inl ⟨root, rfl⟩
  | none =>
    refine Or.inr ⟨rfl, him.resolve_left ?_⟩
    simp [hshort]

lemma Searched.not_known (hs : r.Searched site options owner) : ¬ KnownReceiver site options owner :=
  fun hknown => hs.1 (Or.inr ⟨owner, hs.2, hknown⟩)

lemma searched_of_not_known (hshort : r.shortcut? site = none)
    (howner : r.hierarchy.find? site.owner = some owner) (hknown : ¬ KnownReceiver site options owner) :
    r.Searched site options owner := by
  refine ⟨fun him => ?_, howner⟩
  rcases him.cases with ⟨root, hsome⟩ | ⟨-, d, hd, hknown'⟩
  · exact absurd (hshort.symm.trans hsome) (by simp)
  · obtain rfl : owner = d := Option.some.inj (howner.symm.trans hd)
    exact hknown hknown'

lemma resolve_of_shortcut {root : ClassDecl} (hshort : r.shortcut? site = some root) :
    (r.restricted limit looks).resolve site options = pure ⟨.ok [root], []⟩ := by
  rw [resolve, targets, shortcut?_restricted, hshort]
  rfl

lemma resolve_of_missing (hshort : r.shortcut? site = none)
    (hmissing : r.hierarchy.find? site.owner = none) :
    (r.restricted limit looks).resolve site options = (do
      Logged.emit (.ownerNotFound options.ignoreNotFound site.owner)
      pure ⟨.ok [], []⟩) := by
  rw [resolve, targets, shortcut?_restricted, hierarchy_restricted, hshort, hmissing]
  rfl

lemma resolve_of_declared (hshort : r.shortcut? site = none)
    (howner : r.hierarchy.find? site.owner = some owner) :
    ((r.restricted limit looks).resolve site options).value.outcome =
      ((r.restricted limit looks).ownerTargets site options owner).outcome.value :=
  outcome_resolve hshort howner

/-- A call that is answered immediately has one target, whatever the limit is and cancelled or not. -/
lemma outcome_resolve_immediate (him : r.Immediate site options) :
    ∃ c, ∀ limit looks,
      ((r.restricted limit looks).resolve site options).value.outcome = .ok [c] := by
  rcases him.cases with ⟨root, hshort⟩ | ⟨hshort, owner, howner, hknown⟩
  · refine ⟨root, fun limit looks => ?_⟩
    rw [resolve_of_shortcut hshort]
    rfl
  · refine ⟨owner, fun limit looks => ?_⟩
    rw [resolve_of_declared hshort howner, ownerTargets_of_known hknown]
    rfl

/-! ### The limit -/

/-- The targets of a call that is searched and not cancelled are those that there are without a limit, or too many. -/
lemma outcome_resolve_searched (hs : r.Searched site options owner) (limit : Option Nat) :
    ((r.restricted limit none).resolve site options).value.outcome =
      (r.restricted limit none).bounded owner.name (r.searchResult site options owner) := by
  rw [resolve_of_declared (shortcut?_of_not_immediate hs.1) hs.2, ownerTargets_of_not_known hs.not_known,
    searchResult]
  split
  · rw [outcome_interfaceTargets rfl, interfaceResult_restricted]
  · rw [outcome_classTargets rfl, classResult_restricted]

/-! ### When a cancellation is noticed -/

/-- The test that the classes examined by a search have to pass. -/
def acceptance (r : Resolver) (site : CallSite) (options : DispatchOptions) (owner : ClassDecl) :
    ClassDecl → Logged Bool :=
  if owner.isInterface then r.acceptsImplementor site options.serializableOnly else r.canReceive site

/-- After `k` looks a search has a class left to examine, and the limit has not been exceeded. -/
def StillSearching (r : Resolver) (site : CallSite) (options : DispatchOptions) (owner : ClassDecl)
    (k : Nat) : Prop :=
  k < (r.examined site owner).length ∧ ∀ n, r.limit = some n →
    ((r.examined site owner).take k).countP (fun c => (r.acceptance site options owner c).value) ≤ n

lemma ascending_examined (r : Resolver) (site : CallSite) (owner : ClassDecl) :
    Ascending (r.examined site owner) := by
  rw [examined]
  split
  · exact Hierarchy.ascending_implementors _ _
  · exact r.ascending_candidates site owner

lemma exists_bounded_eq_ok_iff {name : ClassName} {targets : List ClassDecl} :
    (∃ ds, r.bounded name targets = .ok ds) ↔ ∀ n, r.limit = some n → targets.length ≤ n := by
  rw [bounded.eq_def]
  cases r.limit with
  | none => simp
  | some n => by_cases hle : targets.length ≤ n <;> simp [hle]

/-- Gathering is stopped exactly if it still goes on after as many looks. -/
lemma outcome_gather_examined_iff :
    (r.gather owner.name (r.acceptance site options owner) r.cancelledAfter (r.examined site owner)
        []).outcome.value = .error .cancelled ↔
      ∃ k, r.cancelledAfter = some k ∧ r.StillSearching site options owner k := by
  rw [outcome_gather_eq_cancelled_iff]
  refine exists_congr fun k => and_congr_right fun _ => and_congr_right fun _ => ?_
  have hasc : Ascending ((r.examined site owner).take k) :=
    (r.ascending_examined site owner).sublist (List.take_sublist _ _)
  rw [outcome_gather _ _ [] hasc (r.bounded_nil owner.name), exists_bounded_eq_ok_iff, List.nil_append,
    List.countP_eq_length_filter]

lemma outcome_bind_ne_cancelled {x : Attempt (List ClassDecl)} (hx : x.outcome.value ≠ .error .cancelled) :
    (x >>= fun found =>
        if found.isEmpty && !site.isStatic && !site.isObjectMethod then r.defaultTargets site owner
        else pure found).outcome.value ≠ .error .cancelled := by
  rw [Ne, Attempt.value_outcome_bind_eq_error_iff]
  rintro (herr | ⟨found, -, herr⟩)
  · exact hx herr
  · split at herr
    · rw [outcome_defaultTargets] at herr
      exact r.bounded_ne_cancelled owner.name _ herr
    · exact absurd herr (by simp)

/-- Once the subclasses have been examined, a call on a class is not stopped any more. -/
lemma outcome_classTargets_eq_cancelled_iff :
    (r.classTargets site owner).outcome.value = .error .cancelled ↔
      (r.gather owner.name (r.canReceive site) r.cancelledAfter (r.candidates site owner)
        []).outcome.value = .error .cancelled := by
  change (r.gather owner.name (r.canReceive site) r.cancelledAfter (r.candidates site owner) [] >>=
    _).outcome.value = _ ↔ _
  rw [Attempt.value_outcome_bind_eq_error_iff, or_iff_left]
  rintro ⟨found, -, herr⟩
  rw [Attempt.value_outcome_lift_bind] at herr
  dsimp only at herr
  split at herr
  · refine outcome_bind_ne_cancelled ?_ herr
    rw [outcome_addTarget]
    exact r.bounded_ne_cancelled owner.name _
  · exact outcome_bind_ne_cancelled (by simp) herr

/-- **A cancellation is noticed** exactly if the search still goes on after as many looks as went by before it. -/
lemma outcome_resolve_eq_cancelled_iff :
    (r.resolve site options).value.outcome = .error .cancelled ↔
      ∃ owner k, r.Searched site options owner ∧ r.cancelledAfter = some k ∧
        r.StillSearching site options owner k := by
  have hself : r = r.restricted r.limit r.cancelledAfter := rfl
  by_cases him : r.Immediate site options
  · obtain ⟨c, hc⟩ := outcome_resolve_immediate him
    refine iff_of_false ?_ fun ⟨_, _, hs, _⟩ => hs.1 him
    rw [hself, hc]
    simp
  have hshort := shortcut?_of_not_immediate him
  cases howner : r.hierarchy.find? site.owner with
  | none =>
    refine iff_of_false ?_ fun ⟨_, _, hs, _⟩ => absurd (howner.symm.trans hs.2) (by simp)
    rw [hself, resolve_of_missing hshort howner, Logged.value_bind, Logged.value_pure]
    simp
  | some owner =>
    have hs : r.Searched site options owner := ⟨him, howner⟩
    have howned : (r.ownerTargets site options owner).outcome.value = .error .cancelled ↔
        ∃ k, r.cancelledAfter = some k ∧ r.StillSearching site options owner k := by
      rw [← outcome_gather_examined_iff, ownerTargets_of_not_known hs.not_known, acceptance, examined]
      split
      · rw [outcome_interfaceTargets_eq]
      · exact outcome_classTargets_eq_cancelled_iff
    rw [outcome_resolve hshort howner, howned]
    constructor
    · rintro ⟨k, hk⟩
      exact ⟨owner, k, hs, hk⟩
    · rintro ⟨d, k, hd, hk⟩
      obtain rfl : owner = d := Option.some.inj (howner.symm.trans hd.2)
      exact ⟨k, hk⟩

/-! ### What a cancellation leaves -/

open Attempt (SameUnless)

/-- A cancellation stops gathering, or does not touch it. -/
lemma sameUnless_gather (name : ClassName) (accept : ClassDecl → Logged Bool) (looks : Option Nat)
    (cs found : List ClassDecl) :
    SameUnless .cancelled (r.gather name accept looks cs found) (r.gather name accept none cs found) := by
  induction cs generalizing looks found with
  | nil => exact .refl _
  | cons c cs ih =>
    by_cases hlooks : looks = some 0
    · refine Or.inl ?_
      rw [gather, if_pos hlooks]
      rfl
    · rw [gather, gather, if_neg hlooks, if_neg (by simp)]
      refine .bind (.refl _) fun accepted => ?_
      cases accepted with
      | true => exact .bind (.refl _) fun found => ih _ found
      | false => exact ih _ found

lemma gather_restricted (name : ClassName) (accept : ClassDecl → Logged Bool) (looks' : Option Nat)
    (cs found : List ClassDecl) :
    (r.restricted limit looks).gather name accept looks' cs found =
      (r.restricted limit none).gather name accept looks' cs found := by
  induction cs generalizing looks' found with
  | nil => rfl
  | cons c cs ih =>
    rw [gather, gather]
    simp only [ih]
    rfl

lemma defaultTargets_restricted (site : CallSite) (owner : ClassDecl) :
    (r.restricted limit looks).defaultTargets site owner =
      (r.restricted limit none).defaultTargets site owner := by
  rw [defaultTargets, defaultTargets, defaultMethods_restricted, defaultMethods_restricted]
  rfl

lemma sameUnless_interfaceTargets (site : CallSite) (owner : ClassDecl) (serializableOnly : Bool) :
    SameUnless .cancelled ((r.restricted limit looks).interfaceTargets site owner serializableOnly)
      ((r.restricted limit none).interfaceTargets site owner serializableOnly) := by
  rw [interfaceTargets, interfaceTargets, gather_restricted, acceptsImplementor_restricted,
    acceptsImplementor_restricted]
  exact .bind (sameUnless_gather _ _ _ _ _) fun found => .refl _

lemma sameUnless_classTargets (site : CallSite) (owner : ClassDecl) :
    SameUnless .cancelled ((r.restricted limit looks).classTargets site owner)
      ((r.restricted limit none).classTargets site owner) := by
  rw [classTargets, classTargets]
  simp only [gather_restricted, canReceive_restricted, defaultTargets_restricted, hierarchy_restricted]
  exact .bind (sameUnless_gather _ _ _ _ _) fun found => .refl _

lemma sameUnless_ownerTargets (site : CallSite) (options : DispatchOptions) (owner : ClassDecl) :
    SameUnless .cancelled ((r.restricted limit looks).ownerTargets site options owner)
      ((r.restricted limit none).ownerTargets site options owner) := by
  rw [ownerTargets, ownerTargets]
  split
  · exact .refl _
  · split
    · exact sameUnless_interfaceTargets site owner _
    · exact sameUnless_classTargets site owner

lemma sameUnless_targets (r : Resolver) (limit looks : Option Nat) (site : CallSite)
    (options : DispatchOptions) :
    SameUnless .cancelled ((r.restricted limit looks).targets site options)
      ((r.restricted limit none).targets site options) := by
  rw [targets, targets, shortcut?_restricted, shortcut?_restricted, hierarchy_restricted, hierarchy_restricted]
  split
  · exact .refl _
  · split
    · exact .refl _
    · exact .bind (sameUnless_ownerTargets site options _) fun found => .refl _

/-- **A cancellation that is not noticed changes nothing**, events and readings included. -/
lemma resolve_of_not_cancelled
    (hne : ((r.restricted limit looks).resolve site options).value.outcome ≠ .error .cancelled) :
    (r.restricted limit looks).resolve site options = (r.restricted limit none).resolve site options := by
  rcases r.sameUnless_targets limit looks site options with herr | heq
  · exact absurd herr hne
  · rw [resolve, resolve, heq]

/-! ### Both together -/

/-- A call that is not answered immediately has certain targets, and the limit only decides whether they are too many. -/
lemma outcome_resolve_not_immediate (him : ¬ r.Immediate site options) :
    ∃ targets, ∀ limit,
      ((r.restricted limit none).resolve site options).value.outcome =
        (r.restricted limit none).bounded site.owner targets := by
  cases howner : r.hierarchy.find? site.owner with
  | none =>
    refine ⟨[], fun limit => ?_⟩
    rw [resolve_of_missing (shortcut?_of_not_immediate him) howner, bounded_nil]
    rfl
  | some owner =>
    refine ⟨r.searchResult site options owner, fun limit => ?_⟩
    rw [outcome_resolve_searched ⟨him, howner⟩, Hierarchy.name_of_find?_eq_some howner]

/-- A call that succeeds has the targets that it has without limit and cancellation. -/
lemma outcome_unrestricted {targets : List ClassDecl}
    (hok : (r.resolve site options).value.outcome = .ok targets) :
    ((r.restricted none none).resolve site options).value.outcome = .ok targets := by
  change ((r.restricted r.limit r.cancelledAfter).resolve site options).value.outcome = .ok targets at hok
  have hlimited : ((r.restricted r.limit none).resolve site options).value.outcome = .ok targets := by
    have hne : ((r.restricted r.limit r.cancelledAfter).resolve site options).value.outcome ≠
        .error .cancelled := by simp [hok]
    rwa [← resolve_of_not_cancelled hne]
  by_cases him : r.Immediate site options
  · obtain ⟨c, hc⟩ := outcome_resolve_immediate him
    rw [hc none none, ← hc r.limit none, hlimited]
  · obtain ⟨all, hall⟩ := outcome_resolve_not_immediate him
    rw [hall r.limit] at hlimited
    rw [hall none, ← hlimited]
    rcases (r.restricted r.limit none).bounded_cases site.owner all with hok | ⟨e, herr, -⟩
    · exact hok.symm
    · exact absurd (herr.symm.trans hlimited) (by simp)

/-- The targets of a call that does not ask for a class: none if the owner is not declared, the owner if the receiver's class
is known, and what a search finds otherwise. -/
lemma found_cases {found : List ClassDecl} (hget : site.isGetClass = false)
    (hok : (r.resolve site options).value.outcome = .ok found) :
    r.hierarchy.find? site.owner = none ∧ found = [] ∨
      ∃ owner, r.hierarchy.find? site.owner = some owner ∧
        (KnownReceiver site options owner ∧ found = [owner] ∨
          r.Searched site options owner ∧ found = r.searchResult site options owner) := by
  have hshort : r.shortcut? site = none := shortcut?_of_not_getClass hget
  have hall := outcome_unrestricted hok
  cases howner : r.hierarchy.find? site.owner with
  | none =>
    rw [resolve_of_missing hshort howner] at hall
    exact Or.inl ⟨rfl, (Except.ok.inj hall).symm⟩
  | some owner =>
    refine Or.inr ⟨owner, rfl, ?_⟩
    by_cases hknown : KnownReceiver site options owner
    · rw [resolve_of_declared hshort howner, ownerTargets_of_known hknown] at hall
      exact Or.inl ⟨hknown, (Except.ok.inj hall).symm⟩
    · have hs : r.Searched site options owner := searched_of_not_known hshort howner hknown
      rw [outcome_resolve_searched hs, bounded_eq_ok rfl] at hall
      exact Or.inr ⟨hs, (Except.ok.inj hall).symm⟩

/-- A call that is cancelled from the start fails exactly if it can be interrupted. -/
lemma outcome_cancelled_iff_interruptible :
    ((r.restricted limit (some 0)).resolve site options).value.outcome = .error .cancelled ↔
      r.Interruptible site options := by
  rw [outcome_resolve_eq_cancelled_iff]
  constructor
  · rintro ⟨owner, k, hs, hk, hlt, -⟩
    exact ⟨owner, hs, List.ne_nil_of_length_pos (Nat.lt_of_le_of_lt (Nat.zero_le k) hlt)⟩
  · rintro ⟨owner, hs, hne⟩
    exact ⟨owner, 0, hs, rfl, List.length_pos_of_ne_nil hne, fun n _ => by simp⟩

/-- **Limits and cancellation never change the targets of a call.**  Let `targets` be what a call has without them.  With
a limit these are its targets, or it fails because they are more than the limit allows; only a call that is answered
immediately takes no notice of the limit zero.  A call that is cancelled from the start fails exactly if it can be
interrupted, and otherwise it is resolved as if it had not been cancelled.  A call that is cancelled later fails, or it
is resolved as if it had not been cancelled. -/
theorem resolve_restricted (r : Resolver) (site : CallSite) (options : DispatchOptions) :
    ∃ targets, ((r.restricted none none).resolve site options).value.outcome = .ok targets ∧
      (∀ n, 1 ≤ n ∨ ¬ r.Immediate site options →
        ((r.restricted (some n) none).resolve site options).value.outcome =
          if targets.length ≤ n then .ok targets else .error (.tooManyTargets site.owner n)) ∧
      ∀ limit,
        (((r.restricted limit (some 0)).resolve site options).value.outcome = .error .cancelled ↔
          r.Interruptible site options) ∧
        (¬ r.Interruptible site options →
          (r.restricted limit (some 0)).resolve site options =
            (r.restricted limit none).resolve site options) ∧
        ∀ k, ((r.restricted limit (some k)).resolve site options).value.outcome = .error .cancelled ∨
          (r.restricted limit (some k)).resolve site options =
            (r.restricted limit none).resolve site options := by
  have hcancel : ∀ limit k,
      ((r.restricted limit (some k)).resolve site options).value.outcome = .error .cancelled ∨
        (r.restricted limit (some k)).resolve site options =
          (r.restricted limit none).resolve site options :=
    fun limit k => or_iff_not_imp_left.2 resolve_of_not_cancelled
  have hstart : ∀ limit, ¬ r.Interruptible site options →
      (r.restricted limit (some 0)).resolve site options = (r.restricted limit none).resolve site options :=
    fun limit hno => (hcancel limit 0).resolve_left (mt outcome_cancelled_iff_interruptible.1 hno)
  by_cases him : r.Immediate site options
  · obtain ⟨c, hc⟩ := outcome_resolve_immediate him
    refine ⟨[c], hc none none, fun n hn => ?_,
      fun limit => ⟨outcome_cancelled_iff_interruptible, hstart limit, hcancel limit⟩⟩
    have hone : [c].length ≤ n := hn.resolve_right fun hno => hno him
    rw [hc (some n) none, if_pos hone]
  · obtain ⟨targets, htargets⟩ := outcome_resolve_not_immediate him
    exact ⟨targets, htargets none, fun n _ => htargets (some n),
      fun limit => ⟨outcome_cancelled_iff_interruptible, hstart limit, hcancel limit⟩⟩

/-- A class with a method. -/
def base : ClassDecl := ⟨"a.Base", 0, none, [], .topLevel, [⟨"run", 0, [], .void⟩]⟩

/-- A class that inherits the method of `base`. -/
def derived : ClassDecl := ⟨"a.Derived", 0, some "a.Base", [], .topLevel, []⟩

lemma subclasses_base : (unlimited [base, derived] {}).hierarchy.subclasses "a.Base" = [derived] := by
  cbv

lemma searched_base : (unlimited [base, derived] {}).Searched (runOn "a.Base") {} base :=
  searched_of_not_known (by decide) (by decide) fun hknown => absurd hknown.1 (by decide)

/-- Without a limit both classes are found. -/
lemma searchResult_base :
    (unlimited [base, derived] {}).searchResult (runOn "a.Base") {} base = [base, derived] := by
  have hcand : (unlimited [base, derived] {}).candidates (runOn "a.Base") base = [derived] :=
    subclasses_base
  have hbase : ((unlimited [base, derived] {}).canReceive (runOn "a.Base") base).value = true := by
    cbv
  have hderived : ((unlimited [base, derived] {}).canReceive (runOn "a.Base") derived).value = true := by
    refine (canReceive_eq_true_iff (by decide)).2 ⟨by decide, by decide, base, ?_, by cbv⟩
    exact Relation.ReflTransGen.single ⟨⟨by decide, by decide⟩, by decide⟩
  have hinh : (unlimited [base, derived] {}).inherited (runOn "a.Base") base = [base, derived] := by
    rw [inherited, hcand, if_pos hbase, List.filter_cons, if_pos hderived]
    decide
  rw [searchResult, if_neg (by decide), classResult_of_ne_nil (by simp [hinh]), hinh]

/-- A limit of one is too small for both classes, and a limit of two is not. -/
theorem resolve_restricted_base :
    ¬ (unlimited [base, derived] {}).Immediate (runOn "a.Base") {} ∧
      (unlimited [base, derived] {}).Interruptible (runOn "a.Base") {} ∧
      (((unlimited [base, derived] {}).restricted none none).resolve (runOn "a.Base") {}).value.outcome =
        .ok [base, derived] ∧
      (((unlimited [base, derived] {}).restricted (some 1) none).resolve (runOn "a.Base") {}).value.outcome =
        .error (.tooManyTargets "a.Base" 1) ∧
      (((unlimited [base, derived] {}).restricted (some 2) none).resolve (runOn "a.Base") {}).value.outcome =
        .ok [base, derived] ∧
      (((unlimited [base, derived] {}).restricted (some 2) (some 0)).resolve (runOn "a.Base") {}).value.outcome =
        .error .cancelled := by
  have hint : (unlimited [base, derived] {}).Interruptible (runOn "a.Base") {} := by
    refine ⟨base, searched_base, ?_⟩
    change (unlimited [base, derived] {}).hierarchy.subclasses "a.Base" ≠ []
    simp [subclasses_base]
  obtain ⟨targets, hok, hlimit, hcancel⟩ :=
    resolve_restricted (unlimited [base, derived] {}) (runOn "a.Base") {}
  obtain rfl : targets = [base, derived] := by
    rw [outcome_resolve_searched searched_base, searchResult_base] at hok
    exact (Except.ok.inj hok).symm
  exact ⟨searched_base.1, hint, hok, hlimit 1 (Or.inl (by decide)), hlimit 2 (Or.inl (by decide)),
    (hcancel (some 2)).1.2 hint⟩

end Resolver

end CallTargets
