import CallTargets.Event

/-!
# Readings

While a call is resolved, readings are taken of what is to be counted.  A computation that may take readings returns a
`Metered` value: the value with its events and, apart from these, with the readings in the order in which they were
taken.
-/

namespace CallTargets

/-- Something to be counted. -/
inductive Reading where
  /-- A call went to an interface with no bound on its implementors; the interface is not told. -/
  | anonymousUnbounded
  /-- A call went to the interface `owner` with no bound on its implementors. -/
  | unbounded (owner : ClassName)
  /-- A call on `owner` has `targets` targets. -/
  | fanout (owner : ClassName) (targets : Nat)
  deriving DecidableEq, Repr

/-- A value with the events that arose and the readings that were taken on the way to it. -/
structure Metered (α : Type) extends Logged α where
  /-- The readings, first to last. -/
  readings : List Reading

namespace Metered

variable {α : Type}

instance : Monad Metered where
  pure a := ⟨pure a, []⟩
  bind x f := ⟨x.toLogged >>= fun a => (f a).toLogged, x.readings ++ (f x.value).readings⟩

/-- A value for which no readings are taken. -/
def ofLogged (x : Logged α) : Metered α := ⟨x, []⟩

/-- Takes one reading. -/
def record (reading : Reading) : Metered Unit := ⟨pure (), [reading]⟩

end Metered

end CallTargets
