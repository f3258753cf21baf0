import CallTargets.Declaration
import CallTargets.Types.Encoding

/-!
# Signatures of declared methods

The signature of a declared method is the descriptor of its parameters and its result.  A constructor of a member class
takes the enclosing instance as its first argument, but not every declaration lists that parameter.
`MethodDecl.outerSignature` is the signature with that parameter put in front where it is missing.
-/

namespace CallTargets

namespace MethodDecl

/-- A signature that starts with the types `front`. -/
def signatureAfter (front : List Ty) (m : MethodDecl) : Logged String := do
  let params ← Ty.encodeAll (front ++ m.params)
  let result ← m.result.encode
  pure (String.ofList ('(' :: params ++ ')' :: result))

/-- The signature as declared. -/
def signature (m : MethodDecl) : Logged String := m.signatureAfter []

/-- The class that a parameter stands for: its own, or that of the first bound if it is a variable. -/
def parameterClass? : Ty → Option ClassName
  | .typeVar (bound :: _) => bound.className?
  | t => t.className?

/-- The enclosing class that the parameters of a constructor of the class `c` leave out. -/
def missingOuter? (m : MethodDecl) (c : ClassDecl) : Option ClassName :=
  if m.isConstructor && !c.isStatic then
    c.enclosing?.filter fun outer => m.params.head?.bind parameterClass? != some outer
  else
    none

/-- The signature of a method of the class `c`, with the enclosing instance as a parameter of a constructor. -/
def outerSignature (m : MethodDecl) (c : ClassDecl) : Logged String :=
  m.signatureAfter ((m.missingOuter? c).toList.map .object)

end MethodDecl

end CallTargets
