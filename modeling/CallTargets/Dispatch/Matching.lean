import CallTargets.CallSite
import CallTargets.Dispatch.Policy
import CallTargets.Hierarchy.Search
import CallTargets.Signature

/-!
# Which class runs a call

A class *declares* a call if it has a method with a body, the name of the call and its signature.  The policy widens
that in two ways: a method with a variable number of arguments is matched by name, and a constructor of a member class
also with the enclosing instance in front of its parameters.

A class *inherits* a call if it or one of its superclasses below the root class declares it, and it *can receive* the call
if it can also have instances; for static calls it need not.
-/

namespace CallTargets

namespace Resolver

/-- Whether one of the methods `ms` of the class `c` is meant by a call. -/
def declaresAmong (r : Resolver) (site : CallSite) (c : ClassDecl) : List MethodDecl → Logged Bool
  | [] => do
    Logged.emit (.methodNotDeclared c.name site.display)
    pure false
  | m :: ms =>
    if m.isAbstract then r.declaresAmong site c ms
    else if r.policy.varargsByName && m.isVarargs then pure true
    else do
      let found ← m.signature
      if found == site.signature then pure true
      else
        Logged.emit (.signatureMismatch site.signature found c.name)
        if m.isConstructor && r.policy.innerConstructorFix then
          let outer ← m.outerSignature c
          if outer == site.signature then pure true else r.declaresAmong site c ms
        else r.declaresAmong site c ms

/-- Whether the class `c` declares a method that a call means. -/
def declares (r : Resolver) (site : CallSite) (c : ClassDecl) : Logged Bool :=
  r.declaresAmong site c (c.methodsNamed site.name)

/-- Whether one of some classes declares a call, looked at one after the other. -/
def someDeclares (r : Resolver) (site : CallSite) : List ClassDecl → Logged Bool
  | [] => pure false
  | c :: cs => do
    if ← r.declares site c then pure true else r.someDeclares site cs

/-- Whether the class `c` or one of its superclasses below the root class declares a call. -/
def inherits (r : Resolver) (site : CallSite) (c : ClassDecl) : Logged Bool := do
  let (classes, reason) := r.hierarchy.chain (· == rootClass) c
  if ← r.someDeclares site classes then pure true
  else
    if reason = .cycle then
      Logged.emit (.cyclicSuperclasses c.name)
    pure false

/-- Whether the class `c` can receive a call. -/
def canReceive (r : Resolver) (site : CallSite) (c : ClassDecl) : Logged Bool :=
  if c.isInterface then pure false
  else do
    let inherited ← r.inherits site c
    pure (inherited && (site.isStatic || !c.isAbstract))

end Resolver

end CallTargets
