/-!
# Settings

The settings of an analysis: how call targets are resolved, and how events are logged.  The default values stand with the
fields.
-/

namespace CallTargets

/-- How call targets are resolved. -/
structure ResolveSettings where
  /-- Whether a class that is not declared is expected. -/
  ignoreNotFound : Bool := true
  /-- Whether only serializable implementors of an interface are targets. -/
  serializableOnly : Bool := false
  /-- The greatest number of targets of a call. -/
  maxTargets : Option Nat := none
  /-- Whether a constructor may leave out the enclosing instance among its parameters. -/
  innerConstructorFix : Bool := true
  deriving DecidableEq, Repr, Inhabited

/-- How events are logged. -/
structure LogSettings where
  /-- A level or a list of filter directives. -/
  level : String := "info"
  /-- Whether events are written as JSON. -/
  json : Bool := false
  /-- A file to append the events to. -/
  file : Option String := none
  deriving DecidableEq, Repr, Inhabited

/-- The settings of an analysis. -/
structure Settings where
  /-- How call targets are resolved. -/
  resolve : ResolveSettings := {}
  /-- How events are logged. -/
  logging : LogSettings := {}
  deriving DecidableEq, Repr, Inhabited

end CallTargets
