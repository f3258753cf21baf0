import CallTargets.Telemetry.Reading
import CallTargets.Types.Descriptor

/-!
# Failures of resolution

Why a call cannot be resolved or two types cannot be merged.
-/

namespace CallTargets

/-- Why two types do not go together. -/
inductive Mismatch where
  /-- One is a reference, the other is not. -/
  | referenceShape
  /-- One is an array, the other is not. -/
  | arrayShape
  /-- Neither class extends the other. -/
  | unrelatedClasses
  /-- Neither interface extends the other. -/
  | unrelatedInterfaces
  /-- The class does not implement the interface. -/
  | notImplemented
  deriving DecidableEq, Repr, Inhabited

/-- The wording of a mismatch. -/
def Mismatch.wording : Mismatch → String
  | referenceShape => "object/non-object types"
  | arrayShape => "array/non-array types"
  | unrelatedClasses => "non-assignable classes"
  | unrelatedInterfaces => "unrelated interfaces"
  | notImplemented => "interface not implemented by class"

/-- The causes of failures. -/
inductive Failure where
  /-- A class is not declared. -/
  | classNotFound (name : ClassName)
  /-- Two types do not go together. -/
  | incompatible (reason : Mismatch) (left right : Ty)
  /-- A call has more targets than the limit allows. -/
  | tooManyTargets (owner : ClassName) (limit : Nat)
  /-- The work was cancelled. -/
  | cancelled
  /-- The signature of a call site is no method descriptor. -/
  | invalidSignature (error : DescriptorError)
  deriving DecidableEq, Repr

/-- The wording of a failure. -/
def Failure.message : Failure → String
  | classNotFound name => "class not found: " ++ name
  | incompatible reason left right =>
    "incompatible " ++ reason.wording ++ ": " ++ left.display ++ " and " ++ right.display
  | tooManyTargets owner limit =>
    "implementor enumeration for " ++ owner ++ " exceeded the limit of " ++ toString limit
  | cancelled => "resolution cancelled"
  | invalidSignature error => error.message

/-- Work that may report events, take readings and fail; events and readings up to the failure are kept. -/
abbrev Attempt (α : Type) := ExceptT Failure Metered α

namespace Attempt

/-- Work that cannot fail. -/
def lift {α : Type} (x : Logged α) : Attempt α := ExceptT.lift (Metered.ofLogged x)

/-- Takes one reading. -/
def record (reading : Reading) : Attempt Unit := ExceptT.lift (Metered.record reading)

/-- The outcome of an attempt with its events. -/
def outcome {α : Type} (x : Attempt α) : Logged (Except Failure α) := x.run.toLogged

/-- The readings that were taken, also if the attempt fails in the end. -/
def readings {α : Type} (x : Attempt α) : List Reading := x.run.readings

end Attempt

end CallTargets
