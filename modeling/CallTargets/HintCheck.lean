import CallTargets.CallSite
import CallTargets.Merge

/-!
# Checking type hints

The hints of a call site have to go together with its static types: the hint for the receiver with the owner, the hint for
each argument with the parameter.  Each one that does not is reported by itself, and an event tells of it.
-/

namespace CallTargets

/-- What a report about a call site is about. -/
inductive HintSubject where
  /-- The receiver. -/
  | target
  /-- An argument, counted from 0. -/
  | argument (index : Nat)
  /-- The descriptor of the method. -/
  | signature
  deriving DecidableEq, Repr, Inhabited

/-- The text of a subject in messages. -/
def HintSubject.display : HintSubject → String
  | target => "target"
  | argument index => "argument " ++ toString index
  | signature => "signature"

/-- A hint that does not fit its call site. -/
structure HintReport where
  /-- The call site as displayed. -/
  site : String
  /-- What the report is about. -/
  subject : HintSubject
  /-- Why it does not fit. -/
  failure : Failure
  deriving DecidableEq, Repr

/-- The text of a report. -/
def HintReport.display (r : HintReport) : String :=
  r.site ++ " (" ++ r.subject.display ++ "): " ++ r.failure.message

namespace CallSite

/-- Reports one subject of a call site. -/
def report (site : CallSite) (subject : HintSubject) (failure : Failure) : Logged HintReport := do
  Logged.emit (.hintMisfit site.display subject.display failure.message)
  pure ⟨site.display, subject, failure⟩

/-- Checks one hint against a static type. -/
def checkHint (site : CallSite) (h : Hierarchy) (lenient : Bool) (subject : HintSubject)
    (hint type : Ty) : Logged (List HintReport) := do
  match ← (h.merge lenient hint type).outcome with
  | .ok _ => pure []
  | .error failure => do
    let r ← site.report subject failure
    pure [r]

/-- Checks the hint for the receiver. -/
def checkTarget (site : CallSite) (h : Hierarchy) (lenient : Bool) : Logged (List HintReport) :=
  match site.target? with
  | some hint =>
    if site.isStatic then pure [] else site.checkHint h lenient .target hint (.object site.owner)
  | none => pure []

/-- Checks hints for arguments against parameters, from the argument `index` on. -/
def checkArguments (site : CallSite) (h : Hierarchy) (lenient : Bool) :
    Nat → List (Ty × Ty) → Logged (List HintReport)
  | _, [] => pure []
  | index, (hint, type) :: rest => do
    let first ← site.checkHint h lenient (.argument index) hint type
    let others ← site.checkArguments h lenient (index + 1) rest
    pure (first ++ others)

/-- Checks the hints for the arguments, if there are as many as parameters. -/
def checkArgumentHints (site : CallSite) (h : Hierarchy) (lenient : Bool) (hints : List Ty) :
    Logged (List HintReport) :=
  match Descriptor.parseMethod site.signature with
  | .error e => do
    let r ← site.report .signature (.invalidSignature e)
    pure [r]
  | .ok m =>
    if m.params.length = hints.length then
      site.checkArguments h lenient 0 (hints.zip m.params)
    else do
      Logged.emit (.hintCountMismatch site.display m.params.length hints.length)
      pure []

/-- Checks all hints of a call site. -/
def checkHints (site : CallSite) (h : Hierarchy) (lenient : Bool) : Logged (List HintReport) := do
  let target ← site.checkTarget h lenient
  let arguments ←
    match site.args? with
    | some hints => site.checkArgumentHints h lenient hints
    | none => pure []
  pure (target ++ arguments)

end CallSite

end CallTargets
