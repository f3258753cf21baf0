/-!
# Types of values

The types that class metadata and type hints speak about: `void`, the eight primitive types, arrays, classes named
in dotted form, type variables with their bounds, and type variables whose declaration is not known.

`Ty.erased` removes the variables: a variable stands for its first bound, and for the root class where there is
none.  `Ty.display` is the text under which a type appears in messages.
-/

namespace CallTargets

/-- The name of a class or interface in dotted form, such as `java.lang.String`. -/
abbrev ClassName := String

/-- The class at the root of every hierarchy. -/
def rootClass : ClassName := "java.lang.Object"

/-- The primitive types. -/
inductive Primitive where
  | boolean
  | byte
  | char
  | double
  | float
  | int
  | long
  | short
  deriving DecidableEq, Repr, Inhabited

namespace Primitive

/-- All primitive types, in the order of their keywords. -/
def all : List Primitive := [boolean, byte, char, double, float, int, long, short]

/-- The letter that stands for a primitive type in a descriptor. -/
def letter : Primitive → Char
  | boolean => 'Z'
  | byte => 'B'
  | char => 'C'
  | double => 'D'
  | float => 'F'
  | int => 'I'
  | long => 'J'
  | short => 'S'

/-- The primitive type of a descriptor letter. -/
def ofLetter? (c : Char) : Option Primitive := all.find? (·.letter == c)

/-- The keyword of a primitive type. -/
def keyword : Primitive → String
  | boolean => "boolean"
  | byte => "byte"
  | char => "char"
  | double => "double"
  | float => "float"
  | int => "int"
  | long => "long"
  | short => "short"

/-- The primitive type of a keyword. -/
def ofKeyword? (s : String) : Option Primitive := all.find? (·.keyword == s)

/-- A letter is read as `p` exactly when it is the letter of `p`. -/
theorem ofLetter?_eq_some_iff {c : Char} {p : Primitive} : ofLetter? c = some p ↔ p.letter = c := by
  constructor
  · intro h
    have hp := List.find?_some h
    exact eq_of_beq hp
  · rintro rfl
    cases p <;> decide

/-- A keyword is read as `p` exactly when it is the keyword of `p`. -/
theorem ofKeyword?_eq_some_iff {s : String} {p : Primitive} :
    ofKeyword? s = some p ↔ p.keyword = s := by
  constructor
  · intro h
    have hp := List.find?_some h
    exact eq_of_beq hp
  · rintro rfl
    cases p <;> decide

end Primitive

/-- A type, possibly with type variables in it. -/
inductive Ty where
  /-- No value. -/
  | void
  /-- A primitive type. -/
  | prim (p : Primitive)
  /-- An array of a component type. -/
  | array (component : Ty)
  /-- A class or interface. -/
  | object (name : ClassName)
  /-- A type variable with its bounds in the order of declaration. -/
  | typeVar (bounds : List Ty)
  /-- A type variable whose declaration is not known. -/
  | unknown
  deriving Repr, Inhabited

namespace Ty

/-! ### Equality -/

mutual

/-- Equality of types as a test. -/
def beq : Ty → Ty → Bool
  | void, void => true
  | prim p, prim q => p == q
  | array s, array t => s.beq t
  | object m, object n => m == n
  | typeVar bs, typeVar cs => beqAll bs cs
  | unknown, unknown => true
  | _, _ => false

/-- Equality of lists of types as a test. -/
def beqAll : List Ty → List Ty → Bool
  | [], [] => true
  | s :: ss, t :: ts => s.beq t && beqAll ss ts
  | _, _ => false

end

mutual

theorem beq_iff : ∀ s t : Ty, s.beq t = true ↔ s = t
  | void, t => by cases t <;> simp [beq]
  | prim p, t => by cases t <;> simp [beq]
  | array s, t => by
    cases t with
    | array t => simp [beq, beq_iff s t]
    | _ => simp [beq]
  | object m, t => by cases t <;> simp [beq]
  | typeVar bs, t => by
    cases t with
    | typeVar cs => simp [beq, beqAll_iff bs cs]
    | _ => simp [beq]
  | unknown, t => by cases t <;> simp [beq]

theorem beqAll_iff : ∀ ss ts : List Ty, beqAll ss ts = true ↔ ss = ts
  | [], ts => by cases ts <;> simp [beqAll]
  | s :: ss, ts => by
    cases ts with
    | nil => simp [beqAll]
    | cons t ts => simp [beqAll, beq_iff s t, beqAll_iff ss ts]

end

instance : DecidableEq Ty := fun s t => decidable_of_iff _ (beq_iff s t)

/-! ### Shape -/

/-- Whether values of the type are references. -/
def isReference : Ty → Bool
  | void | prim _ => false
  | array _ | object _ | typeVar _ | unknown => true

/-- Whether the type is an array. -/
def isArray : Ty → Bool
  | array _ => true
  | _ => false

/-- Whether the type is `void`. -/
def isVoid : Ty → Bool
  | void => true
  | _ => false

/-- The name of a class type. -/
def className? : Ty → Option ClassName
  | object name => some name
  | _ => none

/-- The number of array dimensions. -/
def dimensions : Ty → Nat
  | array t => t.dimensions + 1
  | _ => 0

/-- The array type with `k` more dimensions. -/
def arrays : Nat → Ty → Ty
  | 0, t => t
  | k + 1, t => array (arrays k t)

/-! ### Erasure -/

/-- The type of the root class. -/
def root : Ty := object rootClass

mutual

/-- The type without its variables: a variable becomes its first bound, and the root class where it has none. -/
def erased : Ty → Ty
  | void => void
  | prim p => prim p
  | array t => array t.erased
  | object name => object name
  | typeVar bounds => erasedFirst bounds
  | unknown => root

/-- The erasure of the first type of a list of bounds. -/
def erasedFirst : List Ty → Ty
  | [] => root
  | bound :: _ => bound.erased

end

/-! ### Display -/

mutual

/-- The text of a type in messages. -/
def display : Ty → String
  | void => "void"
  | prim p => p.keyword
  | array t => t.display ++ "[]"
  | object name => name
  | typeVar bounds => "<" ++ " & ".intercalate (displayAll bounds) ++ ">"
  | unknown => "<?>"

/-- The texts of a list of types. -/
def displayAll : List Ty → List String
  | [] => []
  | t :: ts => t.display :: displayAll ts

end

end Ty

end CallTargets
