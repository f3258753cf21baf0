import CallTargets.Types.Descriptor

/-!
# Call sites

A call site names a method by its owner, its name and its descriptor, and says whether the call is static.  It may carry
type hints for the receiver and the arguments; they are not part of what call it is.

`CallSite.isGetClass` and `CallSite.isObjectMethod` single out the methods that every class has from the root class
and that dispatch treats apart.
-/

namespace CallTargets

/-- A call of a method. -/
structure CallSite where
  /-- The class or interface on which the method is called. -/
  owner : ClassName
  /-- The name of the method. -/
  name : String
  /-- The method descriptor. -/
  signature : String
  /-- Whether the call is static. -/
  isStatic : Bool
  /-- The type hint for the receiver. -/
  target? : Option Ty
  /-- The type hints for the arguments. -/
  args? : Option (List Ty)
  deriving Repr, Inhabited

namespace CallSite

/-- What makes two call sites the same call. -/
def identity (s : CallSite) : ClassName × String × String × Bool :=
  (s.owner, s.name, s.signature, s.isStatic)

/-- Whether two call sites are the same call, whatever their hints. -/
def sameCall (s t : CallSite) : Bool := s.identity == t.identity

/-- The text of a call site in messages. -/
def display (s : CallSite) : String :=
  (if s.isStatic then "static " else "") ++ s.owner ++ "::" ++ s.name ++ s.signature

/-- The class of class objects. -/
def classClass : ClassName := "java.lang.Class"

/-- Whether the call asks an object for its class; that method is final, so its body is the root class's. -/
def isGetClass (s : CallSite) : Bool :=
  s.name == "getClass" &&
    match Descriptor.parseMethod s.signature with
    | .ok m => m.params.isEmpty && m.result.className? == some classClass
    | .error _ => false

/-- Whether the call is one of the root class's methods that matter for dispatch. -/
def isObjectMethod (s : CallSite) : Bool :=
  s.isGetClass || (s.name == "hashCode" && s.signature == "()I") ||
    (s.name == "equals" && s.signature == "(Ljava/lang/Object;)Z")

end CallSite

end CallTargets
