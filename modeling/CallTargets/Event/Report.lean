import CallTargets.Event
import CallTargets.Text.Quoted

/-!
# How events are reported

The severity, the topic, the message and the fields of each event.
-/

namespace CallTargets

/-- The name of a severity. -/
def Severity.name : Severity → String
  | trace => "TRACE"
  | debug => "DEBUG"
  | info => "INFO"
  | warn => "WARN"
  | error => "ERROR"

namespace Event

/-- The severity of an event. -/
def severity : Event → Severity
  | duplicateClass _ => .warn
  | boundlessVariable _ => .warn
  | signatureMismatch .. => .trace
  | methodNotDeclared .. => .trace
  | cyclicSuperclasses _ => .warn
  | ownerNotFound true _ => .debug
  | ownerNotFound false _ => .error
  | defaultAdopted .. => .debug
  | ambiguousDefaults .. => .warn
  | superclassNotFound severity _ => severity
  | interfaceNotFound severity _ => severity
  | implementedNotFound _ => .debug
  | typeNotFound _ => .warn
  | hintMisfit .. => .warn
  | hintCountMismatch .. => .debug

/-- The topic that an event belongs to. -/
def topic : Event → String
  | duplicateClass _ => "sera.index"
  | _ => "sera.resolve"

/-- The message of an event. -/
def message : Event → String
  | duplicateClass _ => "duplicate class definition; last one wins"
  | boundlessVariable type => "unhandled type " ++ type.display ++ ": type variable without bounds"
  | signatureMismatch .. => "signature mismatch"
  | methodNotDeclared .. => "method not declared"
  | cyclicSuperclasses _ => "cyclic superclass chain"
  | ownerNotFound .. => "class not found"
  | defaultAdopted .. => "adding default implementation"
  | ambiguousDefaults .. => "multiple default implementations found"
  | superclassNotFound .. => "failed to find superclass"
  | interfaceNotFound .. => "failed to find interface"
  | implementedNotFound _ => "failed to find implemented interface"
  | typeNotFound _ => "type not found"
  | hintMisfit .. => "type hint does not fit call site"
  | hintCountMismatch .. => "argument hint count does not match descriptor"

/-- The fields of an event. -/
def fields : Event → List (String × FieldValue)
  | duplicateClass name => [("class", .text name)]
  | boundlessVariable _ => []
  | signatureMismatch expected found cls =>
    [("expected", .text expected), ("found", .text found), ("class", .text cls)]
  | methodNotDeclared cls site => [("class", .text cls), ("reference", .text site)]
  | cyclicSuperclasses cls => [("class", .text cls)]
  | ownerNotFound _ cls => [("class", .text cls)]
  | defaultAdopted site interface => [("reference", .text site), ("interface", .text interface)]
  | ambiguousDefaults site candidates =>
    [("reference", .text site), ("candidates", .text (Quoted.quoteAll candidates))]
  | superclassNotFound _ superclass => [("superclass", .text superclass)]
  | interfaceNotFound _ interface => [("interface", .text interface)]
  | implementedNotFound interface => [("interface", .text interface)]
  | typeNotFound cls => [("class", .text cls)]
  | hintMisfit site subject error =>
    [("site", .text site), ("subject", .text subject), ("error", .text error)]
  | hintCountMismatch site expected found =>
    [("site", .text site), ("expected", .count expected), ("found", .count found)]

end Event

end CallTargets
