/-!
# Loading from files

What may go wrong when something is loaded from a file or from a text.
-/

namespace CallTargets

/-- Why a text or file cannot be loaded. -/
inductive LoadError where
  /-- The file cannot be read as text. -/
  | unreadable
  /-- The text does not have the right form. -/
  | malformed
  deriving DecidableEq, Repr, Inhabited

/-- The text of a file, given by its bytes if there is one. -/
def fileText (bytes? : Option ByteArray) : Except LoadError String :=
  match bytes?.bind String.fromUTF8? with
  | some text => .ok text
  | none => .error .unreadable

end CallTargets
