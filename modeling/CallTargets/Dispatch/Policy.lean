import CallTargets.Hierarchy.Basic
import CallTargets.Settings.Basic

/-!
# Resolvers

A `Resolver` is a hierarchy with everything that steers the resolution of calls in it: the policy by which declared methods
are matched, a limit on the number of targets, and a cancellation.  `DispatchOptions` are what may differ from call to
call.

The work may be cancelled from outside at any moment.  It takes notice of that only now and then, when it looks, and what has
been cancelled stays so.  So all there is to know of a cancellation is how many looks go by before it is noticed.
-/

namespace CallTargets

/-- How far the search for default methods goes. -/
inductive DefaultSearch where
  /-- Up to the first interface that has one. -/
  | firstFound
  /-- Through all interfaces, but not beyond one that has one. -/
  | exhaustive
  deriving DecidableEq, Repr, Inhabited

/-- How declared methods are matched with call sites. -/
structure DispatchPolicy where
  /-- Whether a method with a variable number of arguments is matched by its name alone. -/
  varargsByName : Bool := true
  /-- Whether a constructor may leave out the enclosing instance among its parameters. -/
  innerConstructorFix : Bool := true
  /-- How far the search for default methods goes. -/
  defaultSearch : DefaultSearch := .firstFound
  deriving DecidableEq, Repr, Inhabited

/-- What may differ from call to call. -/
structure DispatchOptions where
  /-- Whether it is expected that the owner is not declared. -/
  ignoreNotFound : Bool := true
  /-- Whether the receiver is known to be of the owner's very class. -/
  exactType : Bool := false
  /-- Whether only serializable implementors of an interface are targets. -/
  serializableOnly : Bool := false
  deriving DecidableEq, Repr, Inhabited

/-- The options that settings ask for. -/
def DispatchOptions.ofSettings (s : ResolveSettings) : DispatchOptions :=
  { ignoreNotFound := s.ignoreNotFound, serializableOnly := s.serializableOnly }

/-- A hierarchy with what steers the resolution of calls. -/
structure Resolver where
  /-- The declared classes. -/
  hierarchy : Hierarchy
  /-- How declared methods are matched. -/
  policy : DispatchPolicy := {}
  /-- The greatest number of targets of a call. -/
  limit : Option Nat := none
  /-- The number of looks before the work is found to be cancelled, if it ever is. -/
  cancelledAfter : Option Nat := none

/-- The resolver that settings ask for. -/
def Resolver.ofSettings (h : Hierarchy) (s : ResolveSettings) : Resolver :=
  { hierarchy := h, policy := { innerConstructorFix := s.innerConstructorFix }, limit := s.maxTargets }

end CallTargets
