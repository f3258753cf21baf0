import CallTargets.Event
import CallTargets.Types.Descriptor

/-!
# The descriptor of a type

Every type has a descriptor, also one with type variables in it: a variable is written as its first bound, and one whose
declaration is not known as the root class.  Only a variable without bounds cannot be written.  It leaves no text, and
an event tells of it.
-/

namespace CallTargets

namespace Ty

mutual

/-- The descriptor of a type. -/
def descriptor : Ty → List Char
  | void => ['V']
  | prim p => [p.letter]
  | array t => '[' :: t.descriptor
  | object name => 'L' :: (Descriptor.slashed name.toList ++ [';'])
  | typeVar bounds => firstDescriptor bounds
  | unknown => 'L' :: (Descriptor.slashed rootClass.toList ++ [';'])

/-- The descriptor of the first type of a list of bounds. -/
def firstDescriptor : List Ty → List Char
  | [] => []
  | bound :: _ => bound.descriptor

end

mutual

/-- The variable without bounds at which the descriptor of a type ends, if there is one. -/
def boundless? : Ty → Option Ty
  | array t => t.boundless?
  | typeVar bounds => firstBoundless? bounds
  | void | prim _ | object _ | unknown => none

/-- The variable without bounds for a list of bounds. -/
def firstBoundless? : List Ty → Option Ty
  | [] => some (typeVar [])
  | bound :: _ => bound.boundless?

end

/-- The descriptor of a type, with an event where a variable without bounds left a gap. -/
def encode (t : Ty) : Logged (List Char) :=
  ⟨t.descriptor, t.boundless?.toList.map .boundlessVariable⟩

/-- The descriptors of several types, one after the other. -/
def encodeAll : List Ty → Logged (List Char)
  | [] => pure []
  | t :: ts => do
    let front ← t.encode
    let back ← encodeAll ts
    pure (front ++ back)

end Ty

end CallTargets
