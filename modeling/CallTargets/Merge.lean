import CallTargets.Dispatch.Failure
import CallTargets.Hierarchy.Search
import CallTargets.Marker

/-!
# Merging types

Two observations of a type at one place are merged into the more derived one.  `void` stands for no observation, the root
class and the serialization marker are above everything, arrays are merged by their components, and classes by the
hierarchy.  Type variables are erased first.

Where a class is not declared, a lenient merge settles for the second type.
-/

namespace CallTargets

namespace Hierarchy

/-! ### The walks up the hierarchy -/

/-- The superclass in the search for an interface. -/
def declaredSuperclass (h : Hierarchy) (c : ClassDecl) : Logged (List ClassName) :=
  match c.superName with
  | none => pure []
  | some name =>
    match h.find? name with
    | some _ => pure [name]
    | none => do
      Logged.emit (.superclassNotFound .warn name)
      pure []

/-- The declared ones among some interfaces in order; the events tell of the others, last to first. -/
def declaredInterfaces (h : Hierarchy) : List ClassName → Logged (List ClassName)
  | [] => pure []
  | name :: names => do
    let later ← h.declaredInterfaces names
    match h.find? name with
    | some _ => pure (name :: later)
    | none => do
      Logged.emit (.interfaceNotFound .error name)
      pure later

/-- Looks at one declaration in the search for the interface `target`. -/
def visitInterface (h : Hierarchy) (target : ClassName) (c : ClassDecl) :
    Logged (Visit Bool ClassName) :=
  if c.name = target then pure (.stop true)
  else do
    let above ← h.declaredSuperclass c
    let interfaces ← h.declaredInterfaces c.interfaces
    pure (.next false (interfaces ++ above))

/-- Whether the class `c` is `target` or has it above it, through superclasses and interfaces. -/
def extendsInterface (h : Hierarchy) (c : ClassDecl) (target : ClassName) : Logged Bool :=
  h.exploreFrom id (fun _ => pure ()) (fun _ c _ => h.visitInterface target c) c.name c false

/-- Whether the class `c` is `base` or has it among its superclasses; fails if a superclass before it is missing. -/
def extendsClass (h : Hierarchy) (c : ClassDecl) (base : ClassName) : Attempt Bool :=
  let (classes, reason) := h.chain (fun _ => false) c
  if classes.any (·.name == base) then pure true
  else
    match reason with
    | .top => pure false
    | .missing name => throw (.classNotFound name)
    | .cycle => do
      Attempt.lift (Logged.emit (.cyclicSuperclasses c.name))
      pure false

/-! ### Merging -/

/-- The merge where the class `name` is not declared. -/
def mergeMissing (lenient : Bool) (name : ClassName) (fallback : Ty) : Attempt Ty :=
  if lenient then do
    Attempt.lift (Logged.emit (.typeNotFound name))
    pure fallback
  else
    throw (.classNotFound name)

/-- Merges two declared classes or interfaces of different names. -/
def mergeDeclared (h : Hierarchy) (a b : ClassDecl) : Attempt Ty := do
  let s : Ty := .object a.name
  let t : Ty := .object b.name
  match a.isInterface, b.isInterface with
  | true, true =>
    if ← Attempt.lift (h.extendsInterface a b.name) then pure s
    else if ← Attempt.lift (h.extendsInterface b a.name) then pure t
    else throw (.incompatible .unrelatedInterfaces s t)
  | true, false =>
    if ← Attempt.lift (h.extendsInterface b a.name) then pure t
    else throw (.incompatible .notImplemented s t)
  | false, true =>
    if ← Attempt.lift (h.extendsInterface a b.name) then pure s
    else throw (.incompatible .notImplemented s t)
  | false, false =>
    if ← h.extendsClass a b.name then pure s
    else if ← h.extendsClass b a.name then pure t
    else throw (.incompatible .unrelatedClasses s t)

/-- Merges two classes by name. -/
def mergeClasses (h : Hierarchy) (lenient : Bool) (m n : ClassName) : Attempt Ty :=
  match h.find? m, h.find? n with
  | none, _ => mergeMissing lenient m (.object n)
  | some _, none => mergeMissing lenient n (.object n)
  | some a, some b => if a.name = b.name then pure (.object m) else h.mergeDeclared a b

/-- Merges two types without variables. -/
def mergeErased (h : Hierarchy) (lenient : Bool) (a b : Ty) : Attempt Ty :=
  if a.isVoid then pure b
  else if b.isVoid then pure a
  else if !a.isReference && !b.isReference then pure b
  else if a.isReference != b.isReference then throw (.incompatible .referenceShape a b)
  else if a.className? = some rootClass then pure b
  else if b.className? = some rootClass then pure a
  else if a.className? = some serializable then pure b
  else if b.className? = some serializable then pure a
  else
    match a, b with
    | .array s, .array t => do
      let component ← h.mergeErased lenient s t
      pure (.array component)
    | .object m, .object n => h.mergeClasses lenient m n
    | a, b => throw (.incompatible (if a.isArray || b.isArray then .arrayShape else .referenceShape) a b)

/-- Merges two types into the more derived one. -/
def merge (h : Hierarchy) (lenient : Bool) (a b : Ty) : Attempt Ty :=
  h.mergeErased lenient a.erased b.erased

end Hierarchy

end CallTargets
