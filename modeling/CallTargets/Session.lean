import CallTargets.Dispatch.Targets
import CallTargets.Settings.Document
import CallTargets.Telemetry.Metrics

/-!
# Sessions

A session is a hierarchy with all that can be set while one works with it: settings, a policy, a limit, cancellation, and the
place where readings are added up.  `Session.resolver` puts these together, and later ones have precedence: the
settings first, then the policy, then the limit.
-/

namespace CallTargets

/-- The places where readings are added up. -/
inductive SinkKind where
  /-- The registry of the session. -/
  | metrics
  /-- Nowhere. -/
  | discard
  /-- A bare counter of unbounded calls. -/
  | counter
  /-- The registry shared by all sessions. -/
  | shared
  deriving DecidableEq, Repr, Inhabited

/-- What a place for readings shows. -/
inductive SinkView where
  | metrics (m : Metrics)
  | nothing
  | count (n : Nat)

/-- What has been added up in each place. -/
structure Sinks where
  /-- The registry of the session. -/
  metrics : Metrics := {}
  /-- The counter of unbounded calls. -/
  counter : Nat := 0
  /-- The registry shared by all sessions. -/
  shared : Metrics := {}

namespace Sinks

/-- Whether a reading is that of an unbounded call. -/
def isUnbounded : Reading → Bool
  | .anonymousUnbounded | .unbounded _ => true
  | .fanout .. => false

/-- Adds readings in one place. -/
def record (s : Sinks) (readings : List Reading) : SinkKind → Sinks
  | .metrics => { s with metrics := s.metrics.recordAll readings }
  | .discard => s
  | .counter => { s with counter := s.counter + readings.countP isUnbounded }
  | .shared => { s with shared := s.shared.recordAll readings }

/-- What one place shows. -/
def view (s : Sinks) : SinkKind → SinkView
  | .metrics => .metrics s.metrics
  | .discard => .nothing
  | .counter => .count s.counter
  | .shared => .metrics s.shared

/-- Clears a registry. -/
def clear (s : Sinks) : SinkKind → Sinks
  | .metrics => { s with metrics := s.metrics.reset }
  | .shared => { s with shared := s.shared.reset }
  | .discard | .counter => s

end Sinks

/-- A hierarchy with all that can be set. -/
structure Session where
  /-- The declared classes. -/
  hierarchy : Hierarchy
  /-- The settings, if any were loaded. -/
  settings? : Option ResolveSettings := none
  /-- The policy, if one was set. -/
  policy? : Option DispatchPolicy := none
  /-- The limit on the number of targets, if it was set; it may be set to none. -/
  limit? : Option (Option Nat) := none
  /-- Whether the work has been cancelled. -/
  cancelled : Bool := false
  /-- Where readings are added up. -/
  sink : SinkKind := .metrics
  /-- What has been added up. -/
  sinks : Sinks := {}

namespace Session

/-- The resolver that the session asks for. -/
def resolver (s : Session) : Resolver :=
  let r : Resolver := match s.settings? with
    | some settings => Resolver.ofSettings s.hierarchy settings
    | none => { hierarchy := s.hierarchy }
  { r with
    policy := s.policy?.getD r.policy
    limit := s.limit?.getD r.limit
    cancelledAfter := if s.cancelled then some 0 else none }

/-- The options that the session asks for. -/
def options (s : Session) : DispatchOptions :=
  match s.settings? with
  | some settings => DispatchOptions.ofSettings settings
  | none => {}

/-- Whether a missing class is expected, as the session asks. -/
def lenient (s : Session) : Bool :=
  match s.settings? with
  | some settings => settings.ignoreNotFound
  | none => true

/-- Resolves a call and adds up its readings, whether or not it fails. -/
def resolveBy (s : Session) (r : Resolver) (site : CallSite) (options : DispatchOptions) :
    Logged (Except Failure (List ClassDecl)) × Session :=
  let resolution := r.resolve site options
  (⟨resolution.value.outcome, resolution.events⟩,
    { s with sinks := s.sinks.record resolution.value.readings s.sink })

/-- Resolves a call as the session asks for. -/
def resolve (s : Session) (site : CallSite) (options : DispatchOptions) :
    Logged (Except Failure (List ClassDecl)) × Session :=
  s.resolveBy s.resolver site options

/-- Loads settings; they are kept even if they are wrong, but not if the text is malformed. -/
def loadSettings (s : Session) (text : String) : Except LoadError Diagnostics × Session :=
  match Settings.load text with
  | .ok (settings, diagnostics) => (.ok diagnostics, { s with settings? := some settings.resolve })
  | .error e => (.error e, s)

end Session

end CallTargets
