import CallTargets.Types.Basic

/-!
# Events and logged results

What the library has to say while it works is data: an `Event` names the cause, and its severity, topic, message
and fields are functions of the cause.  A computation that may report events returns a `Logged` value: the value
together with the events in the order in which they arose.
-/

namespace CallTargets

/-- How severe an event is. -/
inductive Severity where
  | trace
  | debug
  | info
  | warn
  | error
  deriving DecidableEq, Repr, Inhabited

/-- The value of a field of an event. -/
inductive FieldValue where
  | text (s : String)
  | count (n : Nat)
  deriving DecidableEq, Repr, Inhabited

/-- The causes of events. -/
inductive Event where
  /-- A class was declared again; the later declaration replaces the earlier one. -/
  | duplicateClass (name : ClassName)
  /-- A type variable without bounds has no descriptor. -/
  | boundlessVariable (type : Ty)
  /-- A method has the name of a call site, but another signature. -/
  | signatureMismatch (expected found : String) (cls : ClassName)
  /-- A class declares no method that a call site could mean. -/
  | methodNotDeclared (cls : ClassName) (site : String)
  /-- The superclass chain of a class runs into a cycle. -/
  | cyclicSuperclasses (cls : ClassName)
  /-- The owner of a call site is not known; `tolerated` says whether that is expected. -/
  | ownerNotFound (tolerated : Bool) (cls : ClassName)
  /-- A class takes part in dispatch through the default method of an interface. -/
  | defaultAdopted (site : String) (interface : ClassName)
  /-- Several interfaces offer a default method. -/
  | ambiguousDefaults (site : String) (candidates : List ClassName)
  /-- A superclass is not known. -/
  | superclassNotFound (severity : Severity) (superclass : ClassName)
  /-- An interface is not known. -/
  | interfaceNotFound (severity : Severity) (interface : ClassName)
  /-- An interface that a class implements is not known, in the search for a marker. -/
  | implementedNotFound (interface : ClassName)
  /-- A type to be merged names a class that is not known. -/
  | typeNotFound (cls : ClassName)
  /-- A type hint does not fit its call site. -/
  | hintMisfit (site subject error : String)
  /-- A call site has more or fewer argument hints than parameters. -/
  | hintCountMismatch (site : String) (expected found : Nat)
  deriving Repr, Inhabited

/-- A value with the events that arose on the way to it. -/
structure Logged (α : Type) where
  /-- The value. -/
  value : α
  /-- The events, first to last. -/
  events : List Event

namespace Logged

variable {α β : Type}

instance : Monad Logged where
  pure a := ⟨a, []⟩
  bind x f := ⟨(f x.value).value, x.events ++ (f x.value).events⟩

/-- Reports one event. -/
def emit (e : Event) : Logged Unit := ⟨(), [e]⟩

@[ext]
theorem ext {x y : Logged α} (hv : x.value = y.value) (he : x.events = y.events) : x = y := by
  cases x; cases y; simp_all

@[simp]
theorem value_pure (a : α) : (pure a : Logged α).value = a := rfl

@[simp]
theorem events_pure (a : α) : (pure a : Logged α).events = [] := rfl

@[simp]
theorem value_bind (x : Logged α) (f : α → Logged β) : (x >>= f).value = (f x.value).value := rfl

@[simp]
theorem events_bind (x : Logged α) (f : α → Logged β) :
    (x >>= f).events = x.events ++ (f x.value).events := rfl

@[simp]
theorem value_emit (e : Event) : (emit e).value = () := rfl

@[simp]
theorem events_emit (e : Event) : (emit e).events = [e] := rfl

instance : LawfulMonad Logged :=
  LawfulMonad.mk' Logged
    (fun x => ext rfl (List.append_nil x.events))
    (fun _ _ => ext rfl (List.nil_append _))
    (fun _ _ _ => ext rfl (List.append_assoc _ _ _))

end Logged

end CallTargets
