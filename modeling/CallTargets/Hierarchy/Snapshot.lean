import CallTargets.Hierarchy.Basic
import CallTargets.Json.Forms
import CallTargets.Json.Reader
import CallTargets.Json.Writer
import CallTargets.Loading

/-!
# Snapshots of a hierarchy

A snapshot is the JSON text of all declarations of a hierarchy, from which it can be loaded again.
-/

namespace CallTargets

namespace Json

/-- The declarations of a snapshot. -/
def snapshot? : Nat → Json → Option (List ClassDecl)
  | 0, _ => none
  | levels + 1, v => (record? ["classes"] v).bind (optional "classes" [] (classes? levels))

/-- The snapshot of some declarations. -/
def ofSnapshot (cs : List ClassDecl) : Json := ofFields [("classes", .arr (cs.map ofClass))]

/-- What a text holds in one of the forms. -/
def decode {α : Type} (read : Nat → Json → Option α) (text : String) : Except LoadError α :=
  match (parse? text).bind (read maxDepth) with
  | some a => .ok a
  | none => .error .malformed

end Json

namespace Hierarchy

/-- Loads the hierarchy of a snapshot. -/
def load (text : String) : Except LoadError (Logged Hierarchy) :=
  (Json.decode Json.snapshot? text).map ofList

/-- Loads the hierarchy of a snapshot in a file. -/
def loadFile (bytes? : Option ByteArray) : Except LoadError (Logged Hierarchy) :=
  (fileText bytes?).bind load

/-- The snapshot of a hierarchy. -/
def snapshot (h : Hierarchy) : Json := Json.ofSnapshot h.classes

end Hierarchy

end CallTargets
