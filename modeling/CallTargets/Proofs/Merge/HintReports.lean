import CallTargets.Event.Report
import CallTargets.Proofs.Merge.Leniency

/-!
# Reports about hints

Each hint of a call site is merged with its static type by itself.  A merge that fails is reported for its own subject, and the
other subjects are looked at as if it had succeeded.

* `CallSite.Misfit` says which subjects do not fit, and why; `mem_checkTarget_iff` and `mem_checkArgumentHints_iff` say that
  these are what is reported.
* `pairwise_checkArguments`: the reports come in the order of the arguments, and none of them twice.
* `Announced`: there is one warning for each report, in the same order.  A merge has events of its own, but none of them is
  such a warning, which is `Hierarchy.lacks_merge`.
* `checkHints_reports` puts these together.
-/

namespace CallTargets

/-! ### Events -/

/-- A warning that a hint does not fit its call site. -/
def Event.isMisfitWarning (e : Event) : Bool :=
  e.severity == .warn && e.message == "type hint does not fit call site"

namespace Logged

variable {α β : Type} {p : Event → Bool} {x : Logged α} {f : α → Logged β}

/-- There are no events of a kind. -/
def Lacks (p : Event → Bool) (x : Logged α) : Prop := ∀ e ∈ x.events, p e = false

lemma lacks_pure (a : α) : Lacks p (pure a) := fun _ he => absurd he List.not_mem_nil

lemma lacks_emit {e : Event} (he : p e = false) : Lacks p (emit e) := by
  intro e' he'
  rwa [List.mem_singleton.1 he']

lemma Lacks.bind (hx : x.Lacks p) (hf : (f x.value).Lacks p) : (x >>= f).Lacks p := by
  intro e he
  rcases List.mem_append.1 he with he | he
  · exact hx e he
  · exact hf e he

lemma Lacks.filter_eq_nil (hx : x.Lacks p) : x.events.filter p = [] :=
  List.filter_eq_nil_iff.2 fun e he => by simp [hx e he]

end Logged

namespace Attempt

variable {α β : Type} {p : Event → Bool} {x : Attempt α} {f : α → Attempt β}

lemma lacks_outcome_pure (a : α) : (pure a : Attempt α).outcome.Lacks p := Logged.lacks_pure _

lemma lacks_outcome_throw (e : Failure) : (throw e : Attempt α).outcome.Lacks p := Logged.lacks_pure _

lemma lacks_outcome_bind (hx : x.outcome.Lacks p) (hf : ∀ a, (f a).outcome.Lacks p) :
    (x >>= f).outcome.Lacks p := by
  change (x.outcome >>= fun a => (ExceptT.bindCont f a).toLogged).Lacks p
  refine hx.bind ?_
  cases x.outcome.value with
  | ok a => exact hf a
  | error e => exact Logged.lacks_pure _

lemma lacks_outcome_lift {x : Logged α} (hx : x.Lacks p) : (Attempt.lift x).outcome.Lacks p :=
  Logged.Lacks.bind hx (Logged.lacks_pure _)

end Attempt

/-! ### The events of a merge -/

namespace Hierarchy

variable {h : Hierarchy} {p : Event → Bool}

/-- A search has the events of its visits and those of absent nodes. -/
lemma lacks_explore {σ ν : Type} {key : ν → ClassName} {absent : ν → Logged Unit}
    {visit : ν → ClassDecl → σ → Logged (Visit σ ν)} (habsent : ∀ node, (absent node).Lacks p)
    (hvisit : ∀ node c s, (visit node c s).Lacks p) (stack : List ν) (seen : List ClassName) (s : σ) :
    (h.explore key absent visit stack seen s).Lacks p := by
  induction stack, seen, s using explore.induct h key with
  | case1 seen s =>
    rw [explore]
    exact Logged.lacks_pure _
  | case2 node rest seen s hs ih =>
    rw [explore, dif_pos hs]
    exact ih
  | case3 node rest seen s hs hf ih =>
    rw [explore, dif_neg hs]
    split
    · exact (habsent node).bind ih
    · rename_i c hc
      exact absurd (hf.symm.trans hc) (by simp)
  | case4 node rest seen s hs c hf _ ih =>
    rw [explore, dif_neg hs]
    split
    · rename_i hc
      exact absurd (hf.symm.trans hc) (by simp)
    · refine (hvisit _ _ _).bind ?_
      split
      · exact Logged.lacks_pure _
      · exact ih _ _

lemma lacks_declaredSuperclass (c : ClassDecl) : (h.declaredSuperclass c).Lacks Event.isMisfitWarning := by
  rw [declaredSuperclass]
  split
  · exact Logged.lacks_pure _
  · split
    · exact Logged.lacks_pure _
    · exact (Logged.lacks_emit rfl).bind (Logged.lacks_pure _)

lemma lacks_declaredInterfaces (names : List ClassName) :
    (h.declaredInterfaces names).Lacks Event.isMisfitWarning := by
  induction names with
  | nil => exact Logged.lacks_pure _
  | cons name names ih =>
    rw [declaredInterfaces]
    refine ih.bind ?_
    split
    · exact Logged.lacks_pure _
    · exact (Logged.lacks_emit rfl).bind (Logged.lacks_pure _)

lemma lacks_extendsInterface (c : ClassDecl) (target : ClassName) :
    (h.extendsInterface c target).Lacks Event.isMisfitWarning := by
  have hvisit : ∀ c, (h.visitInterface target c).Lacks Event.isMisfitWarning := by
    intro c
    rw [visitInterface]
    split
    · exact Logged.lacks_pure _
    · exact (lacks_declaredSuperclass c).bind ((lacks_declaredInterfaces c.interfaces).bind (Logged.lacks_pure _))
  rw [extendsInterface, exploreFrom]
  refine (hvisit c).bind ?_
  split
  · exact Logged.lacks_pure _
  · exact lacks_explore (fun _ => Logged.lacks_pure _) (fun _ c _ => hvisit c) _ _ _

lemma lacks_extendsClass (c : ClassDecl) (base : ClassName) :
    (h.extendsClass c base).outcome.Lacks Event.isMisfitWarning := by
  rw [extendsClass]
  dsimp only
  split
  · exact Attempt.lacks_outcome_pure _
  · split
    · exact Attempt.lacks_outcome_pure _
    · exact Attempt.lacks_outcome_throw _
    · exact Attempt.lacks_outcome_bind (Attempt.lacks_outcome_lift (Logged.lacks_emit rfl))
        fun _ => Attempt.lacks_outcome_pure _

lemma lacks_mergeMissing (lenient : Bool) (name : ClassName) (fallback : Ty) :
    (mergeMissing lenient name fallback).outcome.Lacks Event.isMisfitWarning := by
  cases lenient with
  | true =>
    exact Attempt.lacks_outcome_bind (Attempt.lacks_outcome_lift (Logged.lacks_emit rfl))
      fun _ => Attempt.lacks_outcome_pure _
  | false => exact Attempt.lacks_outcome_throw _

/-- A test whose outcome decides between two attempts. -/
lemma lacks_outcome_ite {x : Attempt Bool} {y z : Attempt Ty} (hx : x.outcome.Lacks p) (hy : y.outcome.Lacks p)
    (hz : z.outcome.Lacks p) : (do if ← x then y else z : Attempt Ty).outcome.Lacks p := by
  refine Attempt.lacks_outcome_bind hx fun found => ?_
  cases found with
  | true => exact hy
  | false => exact hz

lemma lacks_mergeDeclared (a b : ClassDecl) : (h.mergeDeclared a b).outcome.Lacks Event.isMisfitWarning := by
  have hinterface : ∀ (c : ClassDecl) (target : ClassName),
      (Attempt.lift (h.extendsInterface c target)).outcome.Lacks Event.isMisfitWarning := fun c target =>
    Attempt.lacks_outcome_lift (lacks_extendsInterface c target)
  have hpure : ∀ t : Ty, (pure t : Attempt Ty).outcome.Lacks Event.isMisfitWarning := fun t =>
    Attempt.lacks_outcome_pure t
  have hthrow : ∀ e : Failure, (throw e : Attempt Ty).outcome.Lacks Event.isMisfitWarning := fun e =>
    Attempt.lacks_outcome_throw e
  rw [mergeDeclared]
  cases a.isInterface <;> cases b.isInterface
  · exact lacks_outcome_ite (lacks_extendsClass a b.name) (hpure _)
      (lacks_outcome_ite (lacks_extendsClass b a.name) (hpure _) (hthrow _))
  · exact lacks_outcome_ite (hinterface a b.name) (hpure _) (hthrow _)
  · exact lacks_outcome_ite (hinterface b a.name) (hpure _) (hthrow _)
  · exact lacks_outcome_ite (hinterface a b.name) (hpure _)
      (lacks_outcome_ite (hinterface b a.name) (hpure _) (hthrow _))

lemma lacks_mergeClasses (lenient : Bool) (m n : ClassName) :
    (h.mergeClasses lenient m n).outcome.Lacks Event.isMisfitWarning := by
  rw [mergeClasses]
  split
  · exact lacks_mergeMissing _ _ _
  · exact lacks_mergeMissing _ _ _
  · split
    · exact Attempt.lacks_outcome_pure _
    · exact lacks_mergeDeclared _ _

/-- **A merge does not warn of hints**; whoever asks for it does. -/
lemma lacks_merge (lenient : Bool) (a b : Ty) : (h.merge lenient a b).outcome.Lacks Event.isMisfitWarning := by
  rw [merge]
  fun_induction h.mergeErased lenient a.erased b.erased with
  | case4 => exact Attempt.lacks_outcome_throw _
  | case9 s t _ _ _ _ _ _ _ _ ih => exact Attempt.lacks_outcome_bind ih fun _ => Attempt.lacks_outcome_pure _
  | case10 m n => exact lacks_mergeClasses lenient m n
  | case11 => exact Attempt.lacks_outcome_throw _
  | _ => exact Attempt.lacks_outcome_pure _

end Hierarchy

/-! ### What is reported -/

/-- The place of a subject in the reports about a call site. -/
def HintSubject.position : HintSubject → Nat
  | .target => 0
  | .signature => 1
  | .argument index => index + 1

/-- The event that tells of a report. -/
def HintReport.event (r : HintReport) : Event := .hintMisfit r.site r.subject.display r.failure.message

/-- All reports are announced by a warning each, in their order, and there are no other such warnings. -/
def Announced (x : Logged (List HintReport)) : Prop :=
  x.events.filter Event.isMisfitWarning = x.value.map HintReport.event

lemma announced_nil : Announced (pure []) := rfl

lemma Announced.append {x y : Logged (List HintReport)} (hx : Announced x) (hy : Announced y) :
    Announced (do let first ← x; let others ← y; pure (first ++ others)) := by
  have hevents : (x.events ++ (y.events ++ [])).filter Event.isMisfitWarning =
      (x.value ++ y.value).map HintReport.event := by
    rw [List.append_nil, List.filter_append, List.map_append, hx, hy]
  exact hevents

namespace CallSite

variable {site : CallSite} {h : Hierarchy} {lenient : Bool} {r : HintReport} {subject : HintSubject}
  {hint type : Ty} {hints : List Ty} {pairs : List (Ty × Ty)} {start : Nat} {failure : Failure}

/-- A subject does not fit: the receiver of a virtual call, the signature if there are hints for arguments, or an argument if
there are as many of them as parameters. -/
inductive Misfit (site : CallSite) (h : Hierarchy) (lenient : Bool) : HintSubject → Failure → Prop
  | target {hint : Ty} {failure : Failure} : site.isStatic = false → site.target? = some hint →
      (h.merge lenient hint (.object site.owner)).outcome.value = .error failure →
      Misfit site h lenient .target failure
  | signature {hints : List Ty} {error : DescriptorError} : site.args? = some hints →
      Descriptor.parseMethod site.signature = .error error →
      Misfit site h lenient .signature (.invalidSignature error)
  | argument {hints : List Ty} {m : MethodType} {i : Nat} {hint type : Ty} {failure : Failure} :
      site.args? = some hints → Descriptor.parseMethod site.signature = .ok m →
      hints.length = m.params.length → hints[i]? = some hint → m.params[i]? = some type →
      (h.merge lenient hint type).outcome.value = .error failure →
      Misfit site h lenient (.argument i) failure

lemma misfit_target_iff :
    site.Misfit h lenient .target failure ↔
      site.isStatic = false ∧ ∃ hint, site.target? = some hint ∧
        (h.merge lenient hint (.object site.owner)).outcome.value = .error failure := by
  constructor
  · rintro ⟨hvirtual, htarget, hfailure⟩
    exact ⟨hvirtual, _, htarget, hfailure⟩
  · rintro ⟨hvirtual, hint, htarget, hfailure⟩
    exact .target hvirtual htarget hfailure

/-- Without hints for arguments, only the receiver can be a misfit. -/
lemma Misfit.eq_target (hmisfit : site.Misfit h lenient subject failure) (hargs : site.args? = none) :
    subject = .target := by
  cases hmisfit with
  | target => rfl
  | signature hargs' => cases hargs.symm.trans hargs'
  | argument hargs' => cases hargs.symm.trans hargs'

/-- A signature that cannot be read is the only misfit besides the receiver. -/
lemma misfit_iff_of_error {error : DescriptorError} (hargs : site.args? = some hints)
    (hparse : Descriptor.parseMethod site.signature = .error error) :
    subject ≠ .target ∧ site.Misfit h lenient subject failure ↔
      subject = .signature ∧ failure = .invalidSignature error := by
  constructor
  · rintro ⟨hne, hmisfit⟩
    cases hmisfit with
    | target => exact absurd rfl hne
    | signature _ hparse' => exact ⟨rfl, by rw [Except.error.inj (hparse.symm.trans hparse')]⟩
    | argument _ hparse' => cases hparse.symm.trans hparse'
  · rintro ⟨rfl, rfl⟩
    exact ⟨by simp, .signature hargs hparse⟩

/-- Otherwise arguments can be misfits, if there is one parameter for each of them. -/
lemma misfit_iff_of_ok {m : MethodType} (hargs : site.args? = some hints)
    (hparse : Descriptor.parseMethod site.signature = .ok m) :
    subject ≠ .target ∧ site.Misfit h lenient subject failure ↔
      hints.length = m.params.length ∧ ∃ i hint type, (hints.zip m.params)[i]? = some (hint, type) ∧
        subject = .argument i ∧ (h.merge lenient hint type).outcome.value = .error failure := by
  constructor
  · rintro ⟨hne, hmisfit⟩
    cases hmisfit with
    | target => exact absurd rfl hne
    | signature _ hparse' => cases hparse.symm.trans hparse'
    | @argument hints' m' i hint type _ hargs' hparse' hlength hhint htype hfailure =>
      obtain rfl : hints = hints' := Option.some.inj (hargs.symm.trans hargs')
      obtain rfl : m = m' := Except.ok.inj (hparse.symm.trans hparse')
      exact ⟨hlength, i, hint, type, List.getElem?_zip_eq_some.2 ⟨hhint, htype⟩, rfl, hfailure⟩
  · rintro ⟨hlength, i, hint, type, hget, rfl, hfailure⟩
    obtain ⟨hhint, htype⟩ := List.getElem?_zip_eq_some.1 hget
    exact ⟨by simp, .argument hargs hparse hlength hhint htype hfailure⟩

/-! ### One hint -/

lemma mem_checkHint_iff :
    r ∈ (site.checkHint h lenient subject hint type).value ↔
      r.site = site.display ∧ r.subject = subject ∧
        (h.merge lenient hint type).outcome.value = .error r.failure := by
  rw [value_checkHint]
  cases (h.merge lenient hint type).outcome.value with
  | ok t => simp
  | error failure =>
    obtain ⟨shown, subject', failure'⟩ := r
    simp [eq_comm]

lemma pairwise_checkHint (R : HintReport → HintReport → Prop) :
    (site.checkHint h lenient subject hint type).value.Pairwise R := by
  rw [value_checkHint]
  split
  · exact List.Pairwise.nil
  · exact List.pairwise_singleton _ _

lemma announced_report (failure : Failure) :
    Announced (do let r ← site.report subject failure; pure [r]) := rfl

lemma announced_checkHint : Announced (site.checkHint h lenient subject hint type) := by
  have hquiet := (Hierarchy.lacks_merge (h := h) lenient hint type).filter_eq_nil
  rw [Announced, checkHint, Logged.events_bind, Logged.value_bind, List.filter_append, hquiet, List.nil_append]
  cases (h.merge lenient hint type).outcome.value with
  | ok t => exact announced_nil
  | error failure => exact announced_report failure

/-! ### The arguments -/

/-- The induction is on the pairs of a hint and a parameter; the number of the first one is `start`. -/
lemma mem_checkArguments_iff :
    r ∈ (site.checkArguments h lenient start pairs).value ↔
      r.site = site.display ∧ ∃ i hint type, pairs[i]? = some (hint, type) ∧
        r.subject = .argument (start + i) ∧ (h.merge lenient hint type).outcome.value = .error r.failure := by
  induction pairs generalizing start with
  | nil => simp [checkArguments]
  | cons pair pairs ih =>
    obtain ⟨hint, type⟩ := pair
    change r ∈ (site.checkHint h lenient (.argument start) hint type).value ++
      (site.checkArguments h lenient (start + 1) pairs).value ↔ _
    rw [List.mem_append, mem_checkHint_iff, ih, ← and_or_left]
    refine and_congr_right fun _ => ⟨?_, ?_⟩
    · rintro (⟨hsubject, hfailure⟩ | ⟨i, hint', type', hget, hsubject, hfailure⟩)
      · exact ⟨0, hint, type, rfl, hsubject, hfailure⟩
      · refine ⟨i + 1, hint', type', hget, ?_, hfailure⟩
        rw [hsubject, Nat.add_right_comm, Nat.add_assoc]
    · rintro ⟨i, hint', type', hget, hsubject, hfailure⟩
      cases i with
      | zero =>
        obtain ⟨rfl, rfl⟩ : hint = hint' ∧ type = type' := by simpa using hget
        exact Or.inl ⟨hsubject, hfailure⟩
      | succ i =>
        refine Or.inr ⟨i, hint', type', hget, ?_, hfailure⟩
        rw [hsubject, Nat.add_right_comm, Nat.add_assoc]

lemma pairwise_checkArguments :
    (site.checkArguments h lenient start pairs).value.Pairwise
      fun r r' => r.subject.position < r'.subject.position := by
  induction pairs generalizing start with
  | nil => exact List.Pairwise.nil
  | cons pair pairs ih =>
    obtain ⟨hint, type⟩ := pair
    refine List.pairwise_append.2 ⟨pairwise_checkHint _, ih, fun r hr r' hr' => ?_⟩
    obtain ⟨-, hsubject, -⟩ := mem_checkHint_iff.1 hr
    obtain ⟨-, i, _, _, -, hsubject', -⟩ := mem_checkArguments_iff.1 hr'
    rw [hsubject, hsubject']
    change start + 1 < start + 1 + i + 1
    omega

lemma announced_checkArguments : Announced (site.checkArguments h lenient start pairs) := by
  induction pairs generalizing start with
  | nil => exact announced_nil
  | cons pair pairs ih => exact announced_checkHint.append ih

lemma mem_checkArgumentHints_iff (hargs : site.args? = some hints) :
    r ∈ (site.checkArgumentHints h lenient hints).value ↔
      r.site = site.display ∧ r.subject ≠ .target ∧ site.Misfit h lenient r.subject r.failure := by
  rw [checkArgumentHints]
  cases hparse : Descriptor.parseMethod site.signature with
  | error error =>
    obtain ⟨shown, subject, failure⟩ := r
    change _ ∈ [HintReport.mk site.display .signature (.invalidSignature error)] ↔ _
    rw [List.mem_singleton, HintReport.mk.injEq, misfit_iff_of_error hargs hparse]
  | ok m =>
    rw [misfit_iff_of_ok hargs hparse]
    dsimp only
    split
    · rename_i hlength
      rw [mem_checkArguments_iff, and_iff_right hlength.symm]
      simp only [Nat.zero_add]
    · rename_i hlength
      exact iff_of_false List.not_mem_nil fun hmisfit => hlength hmisfit.2.1.symm

lemma pairwise_checkArgumentHints :
    (site.checkArgumentHints h lenient hints).value.Pairwise
      fun r r' => r.subject.position < r'.subject.position := by
  rw [checkArgumentHints]
  split
  · exact List.pairwise_singleton _ _
  · split
    · exact pairwise_checkArguments
    · exact List.Pairwise.nil

lemma announced_checkArgumentHints : Announced (site.checkArgumentHints h lenient hints) := by
  rw [checkArgumentHints]
  split
  · exact announced_report _
  · split
    · exact announced_checkArguments
    · rfl

/-! ### All hints -/

lemma mem_checkTarget_iff :
    r ∈ (site.checkTarget h lenient).value ↔
      r.site = site.display ∧ r.subject = .target ∧ site.Misfit h lenient r.subject r.failure := by
  obtain ⟨shown, subject, failure⟩ := r
  refine Iff.trans ?_ (and_congr_right fun _ => and_congr_right fun hsubject => hsubject ▸ misfit_target_iff.symm)
  rw [checkTarget]
  cases htarget : site.target? with
  | none => simp
  | some hint =>
    cases hstatic : site.isStatic with
    | true => simp
    | false => simp [mem_checkHint_iff]

lemma pairwise_checkTarget (R : HintReport → HintReport → Prop) :
    (site.checkTarget h lenient).value.Pairwise R := by
  rw [checkTarget]
  split
  · split
    · exact List.Pairwise.nil
    · exact pairwise_checkHint R
  · exact List.Pairwise.nil

lemma announced_checkTarget : Announced (site.checkTarget h lenient) := by
  rw [checkTarget]
  split
  · split
    · exact announced_nil
    · exact announced_checkHint
  · exact announced_nil

lemma position_pos (hsubject : subject ≠ .target) : 0 < subject.position := by
  cases subject with
  | target => exact absurd rfl hsubject
  | _ => exact Nat.succ_pos _

/-- The check of a call site, whatever comes of the part about arguments. -/
lemma checkHints_cases (site : CallSite) (h : Hierarchy) (lenient : Bool) :
    ∃ arguments : Logged (List HintReport),
      site.checkHints h lenient =
        (do let target ← site.checkTarget h lenient; let others ← arguments; pure (target ++ others)) ∧
      (∀ r, r ∈ arguments.value ↔
        r.site = site.display ∧ r.subject ≠ .target ∧ site.Misfit h lenient r.subject r.failure) ∧
      (arguments.value.Pairwise fun r r' => r.subject.position < r'.subject.position) ∧ Announced arguments := by
  rw [checkHints]
  cases hargs : site.args? with
  | none =>
    refine ⟨pure [], rfl, fun r => iff_of_false List.not_mem_nil ?_, List.Pairwise.nil, announced_nil⟩
    rintro ⟨-, hne, hmisfit⟩
    exact hne (hmisfit.eq_target hargs)
  | some hints =>
    exact ⟨site.checkArgumentHints h lenient hints, rfl, fun r => mem_checkArgumentHints_iff hargs,
      pairwise_checkArgumentHints, announced_checkArgumentHints⟩

/-- **Reports about hints.**  What is reported for a call site are the subjects that do not fit, each with its own failure and
with the call site as it is displayed.  They come in the order receiver, then signature or arguments ascending, so that
none is reported twice.  There is exactly one warning for each report, in the same order. -/
theorem checkHints_reports (site : CallSite) (h : Hierarchy) (lenient : Bool) :
    (∀ r, r ∈ (site.checkHints h lenient).value ↔
      r.site = site.display ∧ site.Misfit h lenient r.subject r.failure) ∧
    ((site.checkHints h lenient).value.Pairwise fun r r' => r.subject.position < r'.subject.position) ∧
    (site.checkHints h lenient).events.filter
        (fun e => e.severity == .warn && e.message == "type hint does not fit call site") =
      (site.checkHints h lenient).value.map fun r => .hintMisfit r.site r.subject.display r.failure.message := by
  obtain ⟨arguments, hcheck, hmem, hsorted, hannounced⟩ := checkHints_cases site h lenient
  rw [hcheck]
  refine ⟨fun r => ?_, ?_, announced_checkTarget.append hannounced⟩
  · change r ∈ (site.checkTarget h lenient).value ++ arguments.value ↔ _
    rw [List.mem_append, mem_checkTarget_iff, hmem, ← and_or_left, ← or_and_right]
    refine and_congr_right fun _ => and_iff_right (em _)
  · refine List.pairwise_append.2 ⟨pairwise_checkTarget _, hsorted, fun r hr r' hr' => ?_⟩
    rw [(mem_checkTarget_iff.1 hr).2.1]
    exact position_pos ((hmem r').1 hr').2.1

end CallSite

end CallTargets
