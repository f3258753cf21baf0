import CallTargets.Declaration
import CallTargets.Json.Basic

/-!
# Declarations as JSON

The JSON forms of types, nestings, methods and classes.

* A type is an object with a `kind` and, for most kinds, a `value`; or an array of the two.  In an object the kind may
  be wrapped (`Json.name?`), in an array that was kept it may be a position in `Json.typeKinds`.
* A nesting is an object with a `kind`, and an `enclosing` class if it is `inner`; or an array of these.
* A method or class is an object with the fields listed in `methodFields` and `classFields`, or an array of them in
  that order.  Fields that are not known are passed over.

Reading is bounded in depth: an array or object may stand at level `maxDepth` at most, where the outermost value has level
1.  What is passed over does not count.  What is kept until the kind is known, which may come last, does, and has to make
sense as a value by itself (`Json.fits`).
-/

namespace CallTargets

namespace Json

/-- The deepest level at which an array or object may stand. -/
def maxDepth : Nat := 127

/-! ### Values that make sense by themselves -/

mutual

/-- Whether a value is at most `levels` levels deep, all its strings denote texts and all its numbers are in range. -/
def fits : Nat → Json → Bool
  | _, .null => true
  | _, .bool _ => true
  | _, .num n => n.inRange
  | _, .str s => s.isSome
  | 0, .arr _ => false
  | levels + 1, .arr items => allFit levels items
  | 0, .obj _ => false
  | levels + 1, .obj fields => allFieldsFit levels fields

/-- Whether all of some values fit. -/
def allFit : Nat → List Json → Bool
  | _, [] => true
  | levels, v :: vs => fits levels v && allFit levels vs

/-- Whether all of some fields fit. -/
def allFieldsFit : Nat → List (Text × Json) → Bool
  | _, [] => true
  | levels, (k, v) :: fields => k.isSome && fits levels v && allFieldsFit levels fields

end

/-! ### Parts of a form -/

/-- A text. -/
def text? : Json → Option String
  | .str s => s
  | _ => none

/-- An array, whose items are one level further in. -/
def items? {α : Type} (read : Nat → Json → Option α) : Nat → Json → Option (List α)
  | levels + 1, .arr items => items.mapM (read levels)
  | _, _ => none

/-- An array of texts. -/
def texts? : Nat → Json → Option (List String) := items? fun _ => text?

/-- A set of flags: a number of at most 16 bits, written with digits only. -/
def flags? : Json → Option Flags
  | .num (.natural n) => if n < UInt16.size then some n.toUInt16 else none
  | _ => none

/-- The fields of an object, provided that all their names are texts. -/
def namedFields (fields : List (Text × Json)) : Option (List (String × Json)) :=
  fields.mapM fun (k, v) => k.map fun name => (name, v)

/-- The field of a name: `none` if it is repeated, `some none` if there is none. -/
def field? (name : String) (fields : List (String × Json)) : Option (Option Json) :=
  match fields.filter (·.1 == name) with
  | [] => some none
  | [(_, v)] => some (some v)
  | _ => none

/-- The value of a field that has to be there. -/
def required {α : Type} (name : String) (read : Json → Option α) (fields : List (String × Json)) :
    Option α :=
  (field? name fields).bind fun v? => v?.bind read

/-- The value of a field with a default. -/
def optional {α : Type} (name : String) (default : α) (read : Json → Option α)
    (fields : List (String × Json)) : Option α :=
  (field? name fields).bind fun
    | some v => read v
    | none => some default

/-- The fields of a record: those of an object, or the items of an array under the names that they stand for. -/
def record? (names : List String) : Json → Option (List (String × Json))
  | .obj fields => namedFields fields
  | .arr items => if items.length ≤ names.length then some (names.zip items) else none
  | _ => none

/-! ### Types -/

/-- Whether a value stands for nothing.  A value that was kept may also be an empty object. -/
def isNothing (kept : Bool) : Json → Bool
  | .null => true
  | .obj [] => kept
  | _ => false

/-- A name out of a fixed choice: a text, or an object with the name as its only field and nothing in it. -/
def name? (kept : Bool) (levels : Nat) : Json → Option String
  | .str s => s
  | .obj [(some s, v)] => if 0 < levels && isNothing kept v then some s else none
  | _ => none

/-- A primitive type, by its keyword. -/
def primitive? (kept : Bool) (levels : Nat) (v : Json) : Option Primitive :=
  (name? kept levels v).bind Primitive.ofKeyword?

/-- The kinds of types in order. -/
def typeKinds : List String :=
  ["void", "primitive", "array", "class", "generic", "unresolved_generic"]

/-- The kind of a type at the front of an array: a text or, in a value that was kept, its position among the kinds. -/
def leadingKind? (kept : Bool) : Json → Option String
  | .str s => s
  | .num (.natural n) => if kept then typeKinds[n]? else none
  | _ => none

/-- The kind and the value of a type, and whether the value was kept until the kind was known. -/
def taggedParts (kept : Bool) (levels : Nat) : Json → Option (String × Option Json × Bool)
  | .obj fields => do
    let fields ← namedFields fields
    match fields.filter fun (k, _) => k == "kind" || k == "value" with
    | [("kind", kind)] => (name? kept levels kind).map (·, none, kept)
    | [("kind", kind), ("value", v)] => (name? kept levels kind).map (·, some v, kept)
    | [("value", v), ("kind", kind)] =>
      if kept || fits levels v then (name? kept levels kind).map (·, some v, true) else none
    | _ => none
  | .arr [kind, v] => (leadingKind? kept kind).map (·, some v, kept)
  | _ => none

/-- A type that is at most `levels` levels deep; `kept` says whether it is part of a value that was kept. -/
def type? (kept : Bool) : Nat → Json → Option Ty
  | 0, _ => none
  | levels + 1, v =>
    match taggedParts kept levels v with
    | some (kind, value?, kept) =>
      match kind, value? with
      | "void", none => some .void
      | "void", some .null => some .void
      | "primitive", some v => (primitive? kept levels v).map .prim
      | "array", some v => (type? kept levels v).map .array
      | "class", some (.str (some name)) => some (.object name)
      | "generic", some (.arr items) =>
        match levels with
        | 0 => none
        | levels + 1 => (items.mapM (type? kept levels)).map .typeVar
      | "unresolved_generic", none => some .unknown
      | "unresolved_generic", some .null => some .unknown
      | _, _ => none
    | _ => none

/-- An array of types. -/
def types? : Nat → Json → Option (List Ty) := items? (type? false)

/-! ### Nestings -/

/-- The nesting of a kind; `enclosing?` reads the enclosing class and `rest` says whether there is nothing else. -/
def nestingOf? (kind : String) (enclosing? : Option ClassName) (rest : Bool) : Option Nesting :=
  match kind with
  | "top_level" => if rest then some .topLevel else none
  | "inner" => enclosing?.map .inner
  | "local" => if rest then some .localClass else none
  | "anonymous" => if rest then some .anonymous else none
  | _ => none

/-- A nesting.  Everything but the kind is kept until the kind is known. -/
def nesting? : Nat → Json → Option Nesting
  | levels + 1, .obj fields => do
    let fields ← namedFields fields
    let kind ← required "kind" text? fields
    let others := fields.filter (·.1 != "kind")
    if others.all fun (_, v) => fits levels v then
      nestingOf? kind (required "enclosing" text? others) true
    else none
  | levels + 1, .arr (kind :: others) => do
    let kind ← text? kind
    if others.all (fits levels) then
      let enclosing? := match others with
        | [v] => text? v
        | _ => none
      nestingOf? kind enclosing? others.isEmpty
    else none
  | _, _ => none

/-! ### Methods and classes -/

/-- The fields of a method, in the order of its array form. -/
def methodFields : List String := ["name", "access_flags", "parameters", "return_type"]

/-- A method. -/
def method? : Nat → Json → Option MethodDecl
  | 0, _ => none
  | levels + 1, v => do
    let fields ← record? methodFields v
    let name ← required "name" text? fields
    let flags ← optional "access_flags" 0 flags? fields
    let params ← optional "parameters" [] (types? levels) fields
    let result ← required "return_type" (type? false levels) fields
    some { name, flags, params, result }

/-- An array of methods. -/
def methods? : Nat → Json → Option (List MethodDecl) := items? method?

/-- The name of a superclass, or `null` for none. -/
def superName? : Json → Option (Option ClassName)
  | .null => some none
  | v => (text? v).map some

/-- The fields of a class, in the order of its array form. -/
def classFields : List String :=
  ["name", "access_flags", "super_name", "interfaces", "nesting", "methods"]

/-- A class. -/
def class? : Nat → Json → Option ClassDecl
  | 0, _ => none
  | levels + 1, v => do
    let fields ← record? classFields v
    let name ← required "name" text? fields
    let flags ← optional "access_flags" 0 flags? fields
    let superName ← optional "super_name" none superName? fields
    let interfaces ← optional "interfaces" [] (texts? levels) fields
    let nesting ← optional "nesting" .topLevel (nesting? levels) fields
    let methods ← optional "methods" [] (methods? levels) fields
    some { name, flags, superName, interfaces, nesting, methods }

/-- An array of classes. -/
def classes? : Nat → Json → Option (List ClassDecl) := items? class?

/-! ### Writing -/

mutual

/-- The form of a type. -/
def ofType : Ty → Json
  | .void => ofFields [("kind", ofText "void")]
  | .prim p => ofFields [("kind", ofText "primitive"), ("value", ofText p.keyword)]
  | .array t => ofFields [("kind", ofText "array"), ("value", ofType t)]
  | .object name => ofFields [("kind", ofText "class"), ("value", ofText name)]
  | .typeVar bounds => ofFields [("kind", ofText "generic"), ("value", .arr (ofTypes bounds))]
  | .unknown => ofFields [("kind", ofText "unresolved_generic")]

/-- The forms of some types. -/
def ofTypes : List Ty → List Json
  | [] => []
  | t :: ts => ofType t :: ofTypes ts

end

/-- The form of a nesting. -/
def ofNesting : Nesting → Json
  | .topLevel => ofFields [("kind", ofText "top_level")]
  | .inner enclosing => ofFields [("kind", ofText "inner"), ("enclosing", ofText enclosing)]
  | .localClass => ofFields [("kind", ofText "local")]
  | .anonymous => ofFields [("kind", ofText "anonymous")]

/-- The form of a method. -/
def ofMethod (m : MethodDecl) : Json :=
  ofFields [("name", ofText m.name), ("access_flags", ofNat m.flags.toNat),
    ("parameters", .arr (ofTypes m.params)), ("return_type", ofType m.result)]

/-- The form of a class. -/
def ofClass (c : ClassDecl) : Json :=
  ofFields [("name", ofText c.name), ("access_flags", ofNat c.flags.toNat),
    ("super_name", ofOption ofText c.superName), ("interfaces", ofTexts c.interfaces),
    ("nesting", ofNesting c.nesting), ("methods", .arr (c.methods.map ofMethod))]

end Json

end CallTargets
