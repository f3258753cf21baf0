import CallTargets.Proofs.Dispatch.Readings
import CallTargets.Proofs.Dispatch.Targets
import CallTargets.Proofs.Telemetry.Counting
import CallTargets.Session

/-!
# The metrics of a run

Calls are resolved one after the other, each with its own policy, limit and options and cancelled at some moment or not,
and their readings are added up in the registry of the session, also those of a call that fails.  A failing call has
none, at whatever point the search for targets stops, so a failure leaves no trace.

* `Call.readings_resolution`: the readings of one call.
* `Session.perform` and `Session.performAll` are a call and a run.
* `Session.metricsAfter_counts`: the registry shows how many of the calls were resolved, how many of them were unbounded,
  and on which interfaces.
-/

namespace CallTargets

/-! ### Calls -/

/-- A call with all that steers its resolution in a hierarchy. -/
structure Call where
  policy : DispatchPolicy
  limit : Option Nat
  /-- The number of looks before the call is found to be cancelled, if it ever is. -/
  cancelledAfter : Option Nat
  site : CallSite
  options : DispatchOptions

namespace Call

variable {call : Call} {h : Hierarchy}

/-- What resolves the call. -/
def resolver (call : Call) (h : Hierarchy) : Resolver :=
  ⟨h, call.policy, call.limit, call.cancelledAfter⟩

/-- What comes of the call. -/
def resolution (call : Call) (h : Hierarchy) : Resolution :=
  ((call.resolver h).resolve call.site call.options).value

/-- The call asks an object for its class, and the root class answers. -/
def isAnsweredByRoot (call : Call) (h : Hierarchy) : Bool :=
  call.site.isGetClass && (h.find? rootClass).isSome

/-- The call succeeds on a declared owner, and it is not the root class that answers. -/
def isResolved (call : Call) (h : Hierarchy) : Bool :=
  (call.resolution h).outcome.isOk && (h.find? call.site.owner).isSome && !call.isAnsweredByRoot h

/-- The call is resolved, its owner is an interface, and any implementor may be a target. -/
def isUnbounded (call : Call) (h : Hierarchy) : Bool :=
  call.isResolved h && (h.find? call.site.owner).any (·.isInterface) && !call.options.serializableOnly

lemma isSome_shortcut? : ((call.resolver h).shortcut? call.site).isSome = call.isAnsweredByRoot h := by
  rw [Resolver.shortcut?, isAnsweredByRoot]
  cases call.site.isGetClass <;> rfl

/-- The readings of a call: one if it is resolved, and another one before if it is unbounded. -/
lemma readings_resolution (call : Call) (h : Hierarchy) :
    ∃ targets, (call.resolution h).readings =
      (if call.isUnbounded h then [.unbounded call.site.owner] else []) ++
        if call.isResolved h then [.fanout call.site.owner targets] else [] := by
  rcases (call.resolver h).readings_resolve_cases call.site call.options with
    ⟨owner, targets, hshort, howner, hok, hreadings⟩ | ⟨hreadings, hnone⟩
  · have hfind : h.find? call.site.owner = some owner := howner
    have hroot : call.isAnsweredByRoot h = false := by
      rw [← isSome_shortcut?, hshort, Option.isSome_none]
    have hresolved : call.isResolved h = true := by
      have hsuccess : (call.resolution h).outcome = .ok targets := hok
      simp [isResolved, hsuccess, hfind, hroot, Except.isOk, Except.toBool]
    have hunbounded : call.isUnbounded h = (owner.isInterface && !call.options.serializableOnly) := by
      simp [isUnbounded, hresolved, hfind]
    refine ⟨targets.length, hreadings.trans ?_⟩
    rw [Resolver.unboundedReading, hresolved, hunbounded, Hierarchy.name_of_find?_eq_some howner, if_pos rfl]
  · have hunresolved : call.isResolved h = false := by
      rcases hnone with hsome | hmissing | ⟨e, herr⟩
      · simp [isResolved, ← isSome_shortcut?, hsome]
      · have hfind : h.find? call.site.owner = none := hmissing
        simp [isResolved, hfind]
      · have hfailure : (call.resolution h).outcome = .error e := herr
        simp [isResolved, hfailure, Except.isOk, Except.toBool]
    refine ⟨0, hreadings.trans ?_⟩
    simp [isUnbounded, hunresolved]

end Call

/-! ### Runs -/

namespace Session

variable {s : Session} {calls : List Call}

/-- Resolves a call and adds up its readings. -/
def perform (s : Session) (call : Call) : Session :=
  (s.resolveBy (call.resolver s.hierarchy) call.site call.options).2

/-- Resolves calls, first to last. -/
def performAll (s : Session) (calls : List Call) : Session := calls.foldl perform s

/-- The registry after a run that starts with a fresh one. -/
def metricsAfter (h : Hierarchy) (calls : List Call) : Metrics :=
  (({ hierarchy := h } : Session).performAll calls).sinks.metrics

lemma sinks_perform (s : Session) (call : Call) :
    (s.perform call).sinks = s.sinks.record (call.resolution s.hierarchy).readings s.sink := rfl

/-- A call that fails leaves all that has been added up as it is. -/
lemma sinks_perform_of_error {call : Call} {e : Failure}
    (herr : (call.resolution s.hierarchy).outcome = .error e) : (s.perform call).sinks = s.sinks := by
  have hnil : (call.resolution s.hierarchy).readings = [] := by
    rcases (call.resolver s.hierarchy).readings_resolve_cases call.site call.options with
      ⟨owner, targets, -, -, hok, -⟩ | ⟨hnil, -⟩
    · exact absurd (hok.symm.trans herr) (by simp)
    · exact hnil
  rw [sinks_perform, hnil]
  cases s.sink <;> rfl

lemma metrics_performAll (hsink : s.sink = .metrics) :
    (s.performAll calls).sinks.metrics =
      s.sinks.metrics.recordAll (calls.flatMap fun call => (call.resolution s.hierarchy).readings) := by
  induction calls generalizing s with
  | nil => rfl
  | cons call calls ih =>
    have hstep : (s.perform call).sinks.metrics =
        s.sinks.metrics.recordAll (call.resolution s.hierarchy).readings := by
      rw [sinks_perform, hsink]
      rfl
    have hrun := ih (s := s.perform call) hsink
    rw [hstep] at hrun
    rw [List.flatMap_cons, Metrics.recordAll, List.foldl_append]
    exact hrun

/-- Readings of one kind count the calls that have one each. -/
lemma countP_flatMap_readings {h : Hierarchy} {p : Reading → Bool} {q : Call → Bool}
    (hone : ∀ call : Call, (call.resolution h).readings.countP p = (q call).toNat) (calls : List Call) :
    (calls.flatMap fun call => (call.resolution h).readings).countP p = calls.countP q := by
  induction calls with
  | nil => rfl
  | cons call calls ih =>
    rw [List.flatMap_cons, List.countP_append, ih, hone, List.countP_cons, Nat.add_comm]
    cases q call <;> rfl

lemma countP_isFanout_readings (call : Call) (h : Hierarchy) :
    (call.resolution h).readings.countP Reading.isFanout = (call.isResolved h).toNat := by
  obtain ⟨targets, hreadings⟩ := call.readings_resolution h
  rw [hreadings]
  cases call.isUnbounded h <;> cases call.isResolved h <;> rfl

lemma countP_isUnbounded_readings (call : Call) (h : Hierarchy) :
    (call.resolution h).readings.countP Sinks.isUnbounded = (call.isUnbounded h).toNat := by
  obtain ⟨targets, hreadings⟩ := call.readings_resolution h
  rw [hreadings]
  cases call.isUnbounded h <;> cases call.isResolved h <;> rfl

lemma count_unbounded_readings (call : Call) (h : Hierarchy) (name : ClassName) :
    (call.resolution h).readings.count (.unbounded name) =
      (call.isUnbounded h && call.site.owner == name).toNat := by
  obtain ⟨targets, hreadings⟩ := call.readings_resolution h
  rw [hreadings, List.count_append]
  cases hname : call.site.owner == name with
  | true =>
    obtain rfl := beq_iff_eq.1 hname
    cases call.isUnbounded h <;> cases call.isResolved h <;> simp
  | false =>
    have hne : call.site.owner ≠ name := beq_eq_false_iff_ne.1 hname
    cases call.isUnbounded h <;> cases call.isResolved h <;> simp [hne]

/-- **The metrics of a run** of fewer than `2 ^ 64` calls, whatever they are: the registry counts the calls that were
resolved, those of them that were unbounded, and the latter once more by their interface; a name on which there was none
is not listed.  A call that fails leaves the registry as it is, in any session. -/
theorem metricsAfter_counts (h : Hierarchy) (calls : List Call) (hfew : calls.length < 2 ^ 64) :
    (metricsAfter h calls).resolved.toNat = calls.countP (·.isResolved h) ∧
      (metricsAfter h calls).unbounded.toNat = calls.countP (·.isUnbounded h) ∧
      ((metricsAfter h calls).byOwner.Pairwise fun p q => p.1 < q.1) ∧
      (∀ name, ((metricsAfter h calls).byOwner.lookup name).map UInt64.toNat =
        if calls.countP (fun call => call.isUnbounded h && call.site.owner == name) = 0 then none
        else some (calls.countP fun call => call.isUnbounded h && call.site.owner == name)) ∧
      ∀ (s : Session) (call : Call) (e : Failure),
        (call.resolution s.hierarchy).outcome = .error e → (s.perform call).sinks = s.sinks := by
  have hsums : (metricsAfter h calls).AddsUp (calls.flatMap fun call => (call.resolution h).readings) := by
    rw [metricsAfter, metrics_performAll rfl]
    exact Metrics.addsUp_recordAll _
  refine ⟨?_, ?_, hsums.ascending, fun name => ?_, fun s call e => sinks_perform_of_error⟩
  · rw [hsums.resolved, countP_flatMap_readings fun call => countP_isFanout_readings call h]
    exact Metrics.toNat_ofNat_of_le List.countP_le_length hfew
  · rw [hsums.unbounded, countP_flatMap_readings fun call => countP_isUnbounded_readings call h]
    exact Metrics.toNat_ofNat_of_le List.countP_le_length hfew
  · rw [hsums.byOwner, List.count,
      countP_flatMap_readings fun call => count_unbounded_readings call h name]
    exact Metrics.map_toNat_shown List.countP_le_length hfew

/-- An interface. -/
def job : ClassDecl :=
  ⟨"a.Job", .interface ||| .abstract, none, [], .topLevel, [⟨"run", .abstract, [], .void⟩]⟩

/-- An implementor of it. -/
def clerk : ClassDecl := ⟨"a.Clerk", 0, none, ["a.Job"], .topLevel, [⟨"run", 0, [], .void⟩]⟩

/-- Another one. -/
def typist : ClassDecl := { clerk with name := "a.Typist" }

/-- An interface with two implementors. -/
def office : Hierarchy := (Hierarchy.ofList [job, clerk, typist]).value

/-- A call on the interface. -/
def runJob : Call := ⟨{}, none, none, Resolver.runOn "a.Job", {}⟩

/-- The same call with a limit that the second implementor exceeds. -/
def runLimitedJob : Call := { runJob with limit := some 1 }

/-- The same call, cancelled after the first implementor. -/
def runCancelledJob : Call := { runJob with cancelledAfter := some 1 }

/-- The same call, where only serializable implementors are asked for. -/
def runStoredJob : Call := { runJob with options := { serializableOnly := true } }

/-- These calls, the first one once more at the end. -/
def workday : List Call := [runJob, runLimitedJob, runStoredJob, runCancelledJob, runJob]

lemma outcome_runCancelledJob : (runCancelledJob.resolution office).outcome = .error .cancelled := by
  cbv

/-- A call on the interface is resolved if it succeeds. -/
lemma isResolved_eq_isOk {call : Call} (hsite : call.site = Resolver.runOn "a.Job") :
    call.isResolved office = (call.resolution office).outcome.isOk := by
  have hfound : (office.find? call.site.owner).isSome = true := by
    rw [hsite]
    decide
  have hroot : (office.find? rootClass).isSome = false := by decide
  simp [Call.isResolved, Call.isAnsweredByRoot, hfound, hroot]

lemma isUnbounded_eq {call : Call} (hsite : call.site = Resolver.runOn "a.Job") :
    call.isUnbounded office = (call.isResolved office && !call.options.serializableOnly) := by
  have hint : (office.find? call.site.owner).any (·.isInterface) = true := by
    rw [hsite]
    decide
  rw [Call.isUnbounded, hint, Bool.and_true]

/-- On this day the interface is counted twice. -/
theorem metricsAfter_workday :
    workday.length < 2 ^ 64 ∧ (metricsAfter office workday).resolved.toNat = 3 ∧
      (metricsAfter office workday).unbounded.toNat = 2 ∧
      ((metricsAfter office workday).byOwner.lookup "a.Job").map UInt64.toNat = some 2 ∧
      ((metricsAfter office workday).byOwner.lookup "a.Clerk").map UInt64.toNat = none ∧
      (runCancelledJob.resolution office).outcome = .error .cancelled ∧
      ((({ hierarchy := office } : Session).performAll workday).perform runCancelledJob).sinks.metrics =
        metricsAfter office workday := by
  have hjob : runJob.isResolved office = true := by
    have hok : (runJob.resolution office).outcome = .ok [clerk, typist] := by cbv
    rw [isResolved_eq_isOk rfl, hok]
    rfl
  have hlimited : runLimitedJob.isResolved office = false := by
    have herr : (runLimitedJob.resolution office).outcome = .error (.tooManyTargets "a.Job" 1) := by cbv
    rw [isResolved_eq_isOk rfl, herr]
    rfl
  have hcancelled : runCancelledJob.isResolved office = false := by
    rw [isResolved_eq_isOk rfl, outcome_runCancelledJob]
    rfl
  have hstored : runStoredJob.isResolved office = true := by
    have hok : (runStoredJob.resolution office).outcome = .ok [] := by cbv
    rw [isResolved_eq_isOk rfl, hok]
    rfl
  have hjob' : runJob.isUnbounded office = true := by
    rw [isUnbounded_eq rfl, hjob]
    rfl
  have hlimited' : runLimitedJob.isUnbounded office = false := by
    rw [isUnbounded_eq rfl, hlimited, Bool.false_and]
  have hcancelled' : runCancelledJob.isUnbounded office = false := by
    rw [isUnbounded_eq rfl, hcancelled, Bool.false_and]
  have hstored' : runStoredJob.isUnbounded office = false := by
    rw [isUnbounded_eq rfl, hstored]
    rfl
  have howner : runJob.site.owner = "a.Job" := rfl
  obtain ⟨hresolved, hunbounded, -, hlookup, hfailure⟩ := metricsAfter_counts office workday (by decide)
  refine ⟨by decide, hresolved.trans ?_, hunbounded.trans ?_, (hlookup "a.Job").trans ?_,
    (hlookup "a.Clerk").trans ?_, outcome_runCancelledJob, ?_⟩
  · simp [workday, hjob, hlimited, hcancelled, hstored]
  · simp [workday, hjob', hlimited', hcancelled', hstored']
  · simp [workday, hjob', hlimited', hcancelled', hstored', howner]
  · simp [workday, hjob', hlimited', hcancelled', hstored', howner]
  · exact congrArg Sinks.metrics (hfailure _ runCancelledJob _ outcome_runCancelledJob)

end Session

end CallTargets
