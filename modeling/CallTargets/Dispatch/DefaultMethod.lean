import CallTargets.Dispatch.Matching

/-!
# Default methods

If no class has a body for a call, an interface may.  The search for it looks at the interfaces of a class in order,
each before the interfaces that it extends, and then at the superclass in the same way.  It does not look beyond an
interface that has a body, and with `DefaultSearch.firstFound` it ends there.
-/

namespace CallTargets

/-- A declaration yet to be searched for default methods. -/
inductive DefaultNode where
  /-- A class, whose own methods do not count. -/
  | cls (name : ClassName)
  /-- An interface, whose own methods count. -/
  | interface (name : ClassName)
  deriving DecidableEq, Repr

namespace DefaultNode

/-- The name of the declaration. -/
def name : DefaultNode → ClassName
  | cls n | interface n => n

/-- Tells of a declaration that is missing. -/
def absent : DefaultNode → Logged Unit
  | cls _ => pure ()
  | interface n => Logged.emit (.interfaceNotFound .warn n)

end DefaultNode

namespace Resolver

/-- The superclass of `c` as the next to be searched. -/
def superNode (r : Resolver) (c : ClassDecl) : Logged (List DefaultNode) :=
  match c.superName with
  | none => pure []
  | some name =>
    match r.hierarchy.find? name with
    | some _ => pure [.cls name]
    | none => do
      Logged.emit (.superclassNotFound .debug name)
      pure []

/-- Looks at one declaration in the search for default methods. -/
def visitDefault (r : Resolver) (site : CallSite) (node : DefaultNode) (c : ClassDecl)
    (hits : List ClassDecl) : Logged (Hierarchy.Visit (List ClassDecl) DefaultNode) :=
  let interfaces := c.interfaces.map DefaultNode.interface
  match node with
  | .cls _ => do
    let above ← r.superNode c
    pure (.next hits (interfaces ++ above))
  | .interface _ => do
    if ← r.declares site c then
      match r.policy.defaultSearch with
      | .firstFound => pure (.stop (hits ++ [c]))
      | .exhaustive => pure (.next (hits ++ [c]) [])
    else
      pure (.next hits interfaces)

/-- The interfaces above the class `c` that have a body for a call, in the order in which they are found. -/
def defaultMethods (r : Resolver) (site : CallSite) (c : ClassDecl) : Logged (List ClassDecl) :=
  r.hierarchy.exploreFrom DefaultNode.name DefaultNode.absent (r.visitDefault site) (.cls c.name) c []

end Resolver

end CallTargets
