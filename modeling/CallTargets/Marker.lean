import CallTargets.Hierarchy.Search

/-!
# Marker interfaces

A class has a marker if the marker stands among its interfaces, among those of its superclasses, or among those of the
interfaces above it.  The marker itself need not be declared.
-/

namespace CallTargets

/-- The interface that marks classes whose instances can be serialized. -/
def serializable : ClassName := "java.io.Serializable"

namespace Hierarchy

/-- Goes through the interfaces of a class: `none` if the marker is among them, else the declared ones, last to
first, in front of `waiting`. -/
def scanInterfaces (h : Hierarchy) (marker : ClassName) :
    List ClassName → List ClassName → Logged (Option (List ClassName))
  | [], waiting => pure (some waiting)
  | name :: names, waiting =>
    if name = marker then pure none
    else
      match h.find? name with
      | some _ => h.scanInterfaces marker names (name :: waiting)
      | none => do
        Logged.emit (.implementedNotFound name)
        h.scanInterfaces marker names waiting

/-- The superclass in the search for a marker. -/
def scanSuperclass (h : Hierarchy) (c : ClassDecl) : Logged (List ClassName) :=
  match c.superName with
  | none => pure []
  | some name =>
    match h.find? name with
    | some _ => pure [name]
    | none => do
      Logged.emit (.superclassNotFound .debug name)
      pure []

/-- Looks at one declaration in the search for a marker. -/
def visitMarker (h : Hierarchy) (marker : ClassName) (c : ClassDecl) :
    Logged (Visit Bool ClassName) := do
  match ← h.scanInterfaces marker c.interfaces [] with
  | none => pure (.stop true)
  | some interfaces =>
    let above ← h.scanSuperclass c
    pure (.next false (above ++ interfaces))

/-- Whether the class `c` has a marker. -/
def hasMarker (h : Hierarchy) (marker : ClassName) (c : ClassDecl) : Logged Bool :=
  h.exploreFrom id (fun _ => pure ()) (fun _ c _ => h.visitMarker marker c) c.name c false

end Hierarchy

end CallTargets
