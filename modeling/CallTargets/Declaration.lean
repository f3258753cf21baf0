import CallTargets.Types.Basic

/-!
# Declarations of classes and methods

What is known about a class: its name, its access flags, its superclass, its interfaces, where it is nested and which
methods it declares.  Classes and interfaces are declared in the same form; a flag tells them apart.
-/

namespace CallTargets

/-- The access flags of a class or method, a set of bits. -/
abbrev Flags := UInt16

namespace Flags

/-- Bound to a class, not to an instance. -/
def static : Flags := 0x0008

/-- Not to be extended or overridden. -/
def final : Flags := 0x0010

/-- Takes a variable number of arguments. -/
def varargs : Flags := 0x0080

/-- An interface, not a class. -/
def interface : Flags := 0x0200

/-- Not complete by itself. -/
def abstract : Flags := 0x0400

/-- Whether a set of flags meets `mask`. -/
def has (flags mask : Flags) : Bool := flags &&& mask != 0

end Flags

/-- Where a class is declared. -/
inductive Nesting where
  /-- On its own. -/
  | topLevel
  /-- As a member of the class `enclosing`. -/
  | inner (enclosing : ClassName)
  /-- In a block. -/
  | localClass
  /-- In an expression, without a name. -/
  | anonymous
  deriving DecidableEq, Repr, Inhabited

/-- The declaration of a method. -/
structure MethodDecl where
  /-- The simple name. -/
  name : String
  /-- The access flags. -/
  flags : Flags
  /-- The parameter types in order. -/
  params : List Ty
  /-- The result type. -/
  result : Ty
  deriving DecidableEq, Repr, Inhabited

namespace MethodDecl

/-- The name that constructors have. -/
def constructorName : String := "<init>"

/-- Whether the method has no body. -/
def isAbstract (m : MethodDecl) : Bool := m.flags.has .abstract

/-- Whether the method belongs to its class. -/
def isStatic (m : MethodDecl) : Bool := m.flags.has .static

/-- Whether the method takes a variable number of arguments. -/
def isVarargs (m : MethodDecl) : Bool := m.flags.has .varargs

/-- Whether the method is a constructor. -/
def isConstructor (m : MethodDecl) : Bool := m.name == constructorName

end MethodDecl

/-- The declaration of a class or interface. -/
structure ClassDecl where
  /-- The dotted name. -/
  name : ClassName
  /-- The access flags. -/
  flags : Flags
  /-- The superclass, if there is one. -/
  superName : Option ClassName
  /-- The interfaces that the class implements or the interface extends, in order. -/
  interfaces : List ClassName
  /-- Where the class is declared. -/
  nesting : Nesting
  /-- The declared methods in order. -/
  methods : List MethodDecl
  deriving DecidableEq, Repr, Inhabited

namespace ClassDecl

/-- Whether this is an interface. -/
def isInterface (c : ClassDecl) : Bool := c.flags.has .interface

/-- Whether there are no direct instances. -/
def isAbstract (c : ClassDecl) : Bool := c.flags.has .abstract

/-- Whether a member class is independent of instances of the enclosing class. -/
def isStatic (c : ClassDecl) : Bool := c.flags.has .static

/-- Whether there are no subclasses. -/
def isFinal (c : ClassDecl) : Bool := c.flags.has .final

/-- The class of which this one is a member. -/
def enclosing? (c : ClassDecl) : Option ClassName :=
  match c.nesting with
  | .inner enclosing => some enclosing
  | .topLevel | .localClass | .anonymous => none

/-- The declared methods of a name, in order. -/
def methodsNamed (c : ClassDecl) (name : String) : List MethodDecl :=
  c.methods.filter (·.name == name)

end ClassDecl

end CallTargets
