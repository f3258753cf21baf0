import CallTargets.Dispatch.Targets
import CallTargets.Proofs.Dispatch.Outcome
import CallTargets.Proofs.Hierarchy.Subtypes

/-!
# Collecting targets

How the targets of a call are put together from candidates, apart from the question which candidates there are.

* `outcome_gather`: gathering from ascending candidates keeps those that are accepted, in order, and fails exactly if
  these are more than the limit allows.
* `outcome_gather_eq_cancelled_iff`: when a cancellation is noticed in between.
* `canReceive_eq_true_iff`: a class can receive a call exactly if it inherits a method for it and may have instances.
* `outcome_resolve`: resolving a call that no shortcut answers is collecting the targets on its owner.
-/

namespace CallTargets

namespace Resolver

open Hierarchy (Ascending put put_eq_append)

variable {r : Resolver} {site : CallSite} {owner : ClassName}

/-! ### Gathering -/

/-- Targets on `owner`, or the failure that they are more than the limit allows. -/
def bounded (r : Resolver) (owner : ClassName) (targets : List ClassDecl) :
    Except Failure (List ClassDecl) :=
  match r.limit with
  | none => .ok targets
  | some limit => if targets.length ≤ limit then .ok targets else .error (.tooManyTargets owner limit)

lemma bounded_eq_ok (hlimit : r.limit = none) (owner : ClassName) (targets : List ClassDecl) :
    r.bounded owner targets = .ok targets := by
  rw [bounded, hlimit]

@[simp] lemma bounded_nil (r : Resolver) (owner : ClassName) : r.bounded owner [] = .ok [] := by
  unfold bounded
  cases r.limit <;> simp

/-- Targets are either within the limit, or any longer list of targets fails in the same way. -/
lemma bounded_cases (r : Resolver) (owner : ClassName) (targets : List ClassDecl) :
    r.bounded owner targets = .ok targets ∨
      ∃ e, r.bounded owner targets = .error e ∧
        ∀ more : List ClassDecl, targets.length ≤ more.length → r.bounded owner more = .error e := by
  unfold bounded
  cases r.limit with
  | none => exact Or.inl rfl
  | some limit =>
    by_cases hle : targets.length ≤ limit
    · exact Or.inl (if_pos hle)
    · refine Or.inr ⟨_, if_neg hle, fun more hmore => ?_⟩
      exact if_neg fun hle' => hle (Nat.le_trans hmore hle')

lemma outcome_addTarget (r : Resolver) (owner : ClassName) (found : List ClassDecl) (c : ClassDecl) :
    (r.addTarget owner found c).outcome.value = r.bounded owner (put c found) := by
  unfold addTarget bounded
  cases r.limit with
  | none => rfl
  | some limit =>
    dsimp only
    split <;> rfl

lemma length_le_length_put (c : ClassDecl) (found : List ClassDecl) :
    found.length ≤ (put c found).length := by
  induction found with
  | nil => simp
  | cons d found ih =>
    rw [put]
    split
    · simp
    · split
      · simp
      · simpa using ih

/-- One candidate, unless it is now that the work is found to be cancelled. -/
lemma outcome_gather_cons (looks : Option Nat) (hlooks : looks ≠ some 0) (accept : ClassDecl → Logged Bool)
    (c : ClassDecl) (cs found : List ClassDecl) :
    (r.gather owner accept looks (c :: cs) found).outcome.value =
      if (accept c).value then (r.bounded owner (put c found)).bind fun found =>
        (r.gather owner accept (looks.map (· - 1)) cs found).outcome.value
      else (r.gather owner accept (looks.map (· - 1)) cs found).outcome.value := by
  rw [gather, if_neg hlooks, Attempt.value_outcome_lift_bind]
  split
  · rw [Attempt.value_outcome_bind, outcome_addTarget]
  · rfl

/-- **Gathering** from ascending candidates: those that are accepted are added in order, within the limit. -/
lemma outcome_gather (accept : ClassDecl → Logged Bool) (cs found : List ClassDecl)
    (hasc : Ascending (found ++ cs)) (hfound : r.bounded owner found = .ok found) :
    (r.gather owner accept none cs found).outcome.value =
      r.bounded owner (found ++ cs.filter fun c => (accept c).value) := by
  induction cs generalizing found with
  | nil =>
    rw [List.filter_nil, List.append_nil, hfound]
    rfl
  | cons c cs ih =>
    rw [outcome_gather_cons none (by simp), Option.map_none, List.filter_cons]
    by_cases hacc : (accept c).value = true
    · rw [if_pos hacc, if_pos hacc]
      have hput : put c found = found ++ [c] :=
        put_eq_append fun d hd => (List.pairwise_append.1 hasc).2.2 d hd c List.mem_cons_self
      rw [hput]
      rcases r.bounded_cases owner (found ++ [c]) with hok | ⟨e, herr, hmore⟩
      · rw [hok]
        refine (ih _ (by simpa using hasc) hok).trans ?_
        rw [List.append_assoc, List.singleton_append]
      · rw [herr]
        exact (hmore _ (by simp)).symm
    · rw [if_neg hacc, if_neg hacc]
      have hsub : List.Sublist (found ++ cs) (found ++ c :: cs) :=
        (List.sublist_cons_self c cs).append_left found
      exact ih found (hasc.sublist hsub) hfound

lemma bounded_ne_cancelled (r : Resolver) (owner : ClassName) (targets : List ClassDecl) :
    r.bounded owner targets ≠ .error .cancelled := by
  unfold bounded
  cases r.limit with
  | none => simp
  | some limit =>
    dsimp only
    split <;> simp

/-- A cancellation is noticed exactly if there is a candidate left to look at by then, and the limit has not been exceeded
before. -/
lemma outcome_gather_eq_cancelled_iff {looks : Option Nat} (accept : ClassDecl → Logged Bool)
    (cs found : List ClassDecl) :
    (r.gather owner accept looks cs found).outcome.value = .error .cancelled ↔
      ∃ k, looks = some k ∧ k < cs.length ∧
        ∃ ds, (r.gather owner accept none (cs.take k) found).outcome.value = .ok ds := by
  induction cs generalizing looks found with
  | nil => simp [gather]
  | cons c cs ih =>
    by_cases hlooks : looks = some 0
    · rw [gather, if_pos hlooks]
      exact iff_of_true rfl ⟨0, hlooks, Nat.zero_lt_succ _, found, rfl⟩
    · rw [outcome_gather_cons looks hlooks]
      -- after a look the same is to be shown for one look less
      have hstep : ∀ found,
          (r.gather owner accept (looks.map (· - 1)) cs found).outcome.value = .error .cancelled ↔
            ∃ k, looks = some (k + 1) ∧ k < cs.length ∧
              ∃ ds, (r.gather owner accept none (cs.take k) found).outcome.value = .ok ds := by
        intro found
        rw [ih]
        rcases looks with _ | _ | k
        · simp
        · exact absurd rfl hlooks
        · simp
      have hshift : ∀ P : Nat → Prop, (∃ k, looks = some k ∧ k < (c :: cs).length ∧ P k) ↔
          ∃ k, looks = some (k + 1) ∧ k < cs.length ∧ P (k + 1) := by
        intro P
        rcases looks with _ | _ | k
        · simp
        · exact absurd rfl hlooks
        · simp
      rw [hshift]
      simp only [List.take_succ_cons, outcome_gather_cons none (by simp), Option.map_none]
      by_cases hacc : (accept c).value = true
      · simp only [if_pos hacc]
        rcases r.bounded_cases owner (put c found) with hok | ⟨e, herr, -⟩
        · simp only [hok]
          exact hstep _
        · have hne : e ≠ .cancelled := fun he => r.bounded_ne_cancelled owner _ (he ▸ herr)
          simp [herr, Except.bind, hne]
      · simp only [if_neg hacc]
        exact hstep _

/-! ### Receiving a call -/

/-- The class `c` may have instances, or needs none for a static call, and it inherits a method for the call. -/
def Receives (r : Resolver) (site : CallSite) (c : ClassDecl) : Prop :=
  c.isInterface = false ∧ (c.isAbstract = false ∨ site.isStatic = true) ∧
    ∃ d, r.hierarchy.InheritsFrom c d ∧ (r.declares site d).value = true

lemma someDeclares_eq_any (cs : List ClassDecl) :
    (r.someDeclares site cs).value = cs.any fun c => (r.declares site c).value := by
  induction cs with
  | nil => rfl
  | cons c cs ih =>
    rw [someDeclares, Logged.value_bind, List.any_cons, ← ih]
    cases (r.declares site c).value <;> rfl

lemma inherits_eq_any (c : ClassDecl) :
    (r.inherits site c).value =
      (r.hierarchy.chain (· == rootClass) c).1.any fun d => (r.declares site d).value := by
  rw [← someDeclares_eq_any, inherits]
  simp only [Logged.value_bind]
  cases (r.someDeclares site (r.hierarchy.chain (· == rootClass) c).1).value with
  | true => rfl
  | false =>
    simp only [Bool.false_eq_true, if_false]
    split <;> rfl

lemma inherits_eq_true_iff {c : ClassDecl} (hc : c ∈ r.hierarchy.classes) :
    (r.inherits site c).value = true ↔
      ∃ d, r.hierarchy.InheritsFrom c d ∧ (r.declares site d).value = true := by
  rw [inherits_eq_any, List.any_eq_true]
  simp only [Hierarchy.mem_chain_rootClass_iff hc]

/-- The test whether a class can receive a call is exact. -/
lemma canReceive_eq_true_iff {c : ClassDecl} (hc : c ∈ r.hierarchy.classes) :
    (r.canReceive site c).value = true ↔ r.Receives site c := by
  rw [canReceive, Receives, ← inherits_eq_true_iff hc]
  cases c.isInterface with
  | true => simp
  | false =>
    simp only [Bool.false_eq_true, if_false, Logged.value_bind, Logged.value_pure]
    cases (r.inherits site c).value <;> cases site.isStatic <;> cases c.isAbstract <;> simp

/-! ### Resolving -/

/-- A call that is not answered by the root class's final method is resolved on its owner. -/
lemma outcome_resolve {options : DispatchOptions} {c : ClassDecl} (hshort : r.shortcut? site = none)
    (howner : r.hierarchy.find? site.owner = some c) :
    (r.resolve site options).value.outcome = (r.ownerTargets site options c).outcome.value := by
  change (r.targets site options).outcome.value = _
  rw [targets, hshort, howner]
  dsimp only
  rw [Attempt.value_outcome_bind]
  cases (r.ownerTargets site options c).outcome.value with
  | ok targets => rfl
  | error e => rfl

end Resolver

end CallTargets
