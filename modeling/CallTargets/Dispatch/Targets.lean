import CallTargets.Dispatch.DefaultMethod
import CallTargets.Dispatch.Failure
import CallTargets.Hierarchy.Descendants
import CallTargets.Marker

/-!
# The targets of a call

The targets of a call are the classes whose method may run.

* On an interface they are its implementors that can receive the call.
* On a class they are the class and, unless the call is static, its subclasses that can receive it.  If there are
  none, the class itself is a target through a default method, provided exactly one interface has it.
* Two shortcuts come before: asking an object for its class always runs the root class's method, and a receiver of
  a known class has that class as its only target.

More targets than the limit, or a cancelled search, is a failure and never a part of the targets.  Readings are taken on
the way: one when the implementors of an interface have all been gone through, and one when the targets are there.
-/

namespace CallTargets

/-- What comes of a call. -/
structure Resolution where
  /-- The targets ascending by name, or why there are none. -/
  outcome : Except Failure (List ClassDecl)
  /-- The readings that were taken, first to last. -/
  readings : List Reading

namespace Resolver

/-- Adds a target to those found on `owner`, unless that exceeds the limit. -/
def addTarget (r : Resolver) (owner : ClassName) (found : List ClassDecl) (c : ClassDecl) :
    Attempt (List ClassDecl) :=
  let found := Hierarchy.put c found
  match r.limit with
  | none => pure found
  | some limit => if found.length ≤ limit then pure found else throw (.tooManyTargets owner limit)

/-- Adds those of some candidates that are accepted to the targets found on `owner`.  Before each candidate there is a
look whether the work has been cancelled, which it is after `looks` more of them. -/
def gather (r : Resolver) (owner : ClassName) (accept : ClassDecl → Logged Bool) :
    Option Nat → List ClassDecl → List ClassDecl → Attempt (List ClassDecl)
  | _, [], found => pure found
  | looks, c :: cs, found => do
    if looks = some 0 then throw .cancelled
    if ← Attempt.lift (accept c) then
      r.gather owner accept (looks.map (· - 1)) cs (← r.addTarget owner found c)
    else
      r.gather owner accept (looks.map (· - 1)) cs found

/-- Whether an implementor of an interface is a target. -/
def acceptsImplementor (r : Resolver) (site : CallSite) (serializableOnly : Bool) (c : ClassDecl) :
    Logged Bool := do
  if ← r.canReceive site c then
    if serializableOnly then r.hierarchy.hasMarker serializable c else pure true
  else
    pure false

/-- The targets of a call on the interface `owner`. -/
def interfaceTargets (r : Resolver) (site : CallSite) (owner : ClassDecl)
    (serializableOnly : Bool) : Attempt (List ClassDecl) := do
  let found ← r.gather owner.name (r.acceptsImplementor site serializableOnly) r.cancelledAfter
    (r.hierarchy.implementors owner.name) []
  if !serializableOnly then
    Attempt.record (.unbounded owner.name)
  pure found

/-- The class `owner` as a target through a default method. -/
def defaultTargets (r : Resolver) (site : CallSite) (owner : ClassDecl) :
    Attempt (List ClassDecl) := do
  match ← Attempt.lift (r.defaultMethods site owner) with
  | [] => pure []
  | [interface] =>
    Attempt.lift (Logged.emit (.defaultAdopted site.display interface.name))
    r.addTarget owner.name [] owner
  | interfaces =>
    Attempt.lift (Logged.emit (.ambiguousDefaults site.display (interfaces.map (·.name))))
    pure []

/-- The targets of a call on the class `owner`. -/
def classTargets (r : Resolver) (site : CallSite) (owner : ClassDecl) :
    Attempt (List ClassDecl) := do
  let below := if site.isStatic then [] else r.hierarchy.subclasses owner.name
  let found ← r.gather owner.name (r.canReceive site) r.cancelledAfter below []
  let found ←
    if ← Attempt.lift (r.canReceive site owner) then r.addTarget owner.name found owner
    else pure found
  if found.isEmpty && !site.isStatic && !site.isObjectMethod then
    r.defaultTargets site owner
  else
    pure found

/-- The targets of a call on the declared `owner`. -/
def ownerTargets (r : Resolver) (site : CallSite) (options : DispatchOptions) (owner : ClassDecl) :
    Attempt (List ClassDecl) :=
  if options.exactType && !owner.isInterface && (site.isStatic || !owner.isAbstract) then
    pure [owner]
  else if owner.isInterface then
    r.interfaceTargets site owner options.serializableOnly
  else
    r.classTargets site owner

/-- The declaration that the root class's final method belongs to, for calls of that method. -/
def shortcut? (r : Resolver) (site : CallSite) : Option ClassDecl :=
  if site.isGetClass then r.hierarchy.find? rootClass else none

/-- The targets of a call. -/
def targets (r : Resolver) (site : CallSite) (options : DispatchOptions) : Attempt (List ClassDecl) :=
  match r.shortcut? site with
  | some root => pure [root]
  | none =>
    match r.hierarchy.find? site.owner with
    | none => do
      Attempt.lift (Logged.emit (.ownerNotFound options.ignoreNotFound site.owner))
      pure []
    | some owner => do
      let found ← r.ownerTargets site options owner
      Attempt.record (.fanout owner.name found.length)
      pure found

/-- Resolves a call. -/
def resolve (r : Resolver) (site : CallSite) (options : DispatchOptions) : Logged Resolution :=
  let attempt := r.targets site options
  ⟨⟨attempt.outcome.value, attempt.readings⟩, attempt.outcome.events⟩

end Resolver

end CallTargets
