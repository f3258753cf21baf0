import CallTargets.Loading
import CallTargets.Settings.LogFilter
import CallTargets.Toml.Document

/-!
# Settings from a document

Settings are read from a TOML document with the sections `resolve` and `logging`.  A section is a table, or an array of its
values in the order of its keys.  What a document does not set keeps its default, and a key that is not known changes
nothing.

Besides the settings, loading gives diagnostics: the keys that are not known, and what is wrong with the values.
-/

namespace CallTargets

/-! ### Diagnostics -/

/-- Something suspicious about settings. -/
inductive SettingsWarning where
  /-- The level of the log is neither a level nor a list of directives. -/
  | invalidLevel (value normalized : String)
  deriving DecidableEq, Repr

/-- Something wrong with settings. -/
inductive SettingsError where
  /-- No call may have any target. -/
  | zeroLimit
  deriving DecidableEq, Repr

/-- The key that an error is about. -/
def SettingsError.path : SettingsError → String
  | zeroLimit => "resolve.max_implementors"

/-- The wording of an error. -/
def SettingsError.message : SettingsError → String
  | zeroLimit => "must be >= 1"

/-- What there is to say about a document of settings. -/
structure Diagnostics where
  /-- The keys that are not known, ascending, each once. -/
  unknownKeys : List String
  /-- What is suspicious. -/
  warnings : List SettingsWarning
  /-- What is wrong. -/
  errors : List SettingsError
  deriving DecidableEq, Repr

/-- Whether there is nothing to say. -/
def Diagnostics.isEmpty (d : Diagnostics) : Bool :=
  d.unknownKeys.isEmpty && d.warnings.isEmpty && d.errors.isEmpty

/-- Whether nothing is wrong. -/
def Diagnostics.isOk (d : Diagnostics) : Bool := d.errors.isEmpty

namespace Settings

/-- What is suspicious about settings. -/
def warnings (s : Settings) : List SettingsWarning :=
  let normalized := LogSettings.normalize s.logging.level
  if !(trimText s.logging.level).isEmpty && (LogFilter.parse? normalized).isNone then
    [.invalidLevel s.logging.level normalized]
  else []

/-- What is wrong with settings. -/
def errors (s : Settings) : List SettingsError :=
  if s.resolve.maxTargets = some 0 then [.zeroLimit] else []

end Settings

/-! ### Sections -/

namespace SettingsDocument

open Toml (Value Table)

/-- The keys of the section on resolution, in order. -/
def resolveKeys : List String :=
  ["ignore_not_found", "serializable_only", "max_implementors", "inner_constructor_fix"]

/-- The keys of the section on logging, in order. -/
def loggingKeys : List String := ["level", "json", "file"]

/-- The sections. -/
def sections : List String := ["resolve", "logging"]

/-- The key under which a date stands where a section is expected. -/
def datetimeKey : String := "$__toml_private_datetime"

/-- The entries of a section, and the keys in it that are not known. -/
def entries? (keys : List String) : Value → Option (Table × List String)
  | .table entries => some (entries, (entries.map (·.1)).filter (!keys.contains ·))
  | .array items => some (keys.zip items, [])
  | .datetime literal => some ([(datetimeKey, .string literal)], [datetimeKey])
  | _ => none

/-- The value of a key, or the default if it is not set. -/
def get {α : Type} (entries : Table) (key : String) (default : α) (read : Value → Option α) :
    Option α :=
  match entries.find? (·.1 == key) with
  | some (_, v) => read v
  | none => some default

/-- A truth value. -/
def boolean? : Value → Option Bool
  | .boolean b => some b
  | _ => none

/-- A text. -/
def string? : Value → Option String
  | .string s => some s
  | _ => none

/-- A natural number. -/
def natural? : Value → Option Nat
  | .integer n => if 0 ≤ n then some n.toNat else none
  | _ => none

/-- The settings on resolution. -/
def resolve? (entries : Table) : Option ResolveSettings := do
  let ignoreNotFound ← get entries "ignore_not_found" true boolean?
  let serializableOnly ← get entries "serializable_only" false boolean?
  let maxTargets ← get entries "max_implementors" none fun v => (natural? v).map some
  let innerConstructorFix ← get entries "inner_constructor_fix" true boolean?
  some { ignoreNotFound, serializableOnly, maxTargets, innerConstructorFix }

/-- The settings on logging. -/
def logging? (entries : Table) : Option LogSettings := do
  let level ← get entries "level" "info" string?
  let json ← get entries "json" false boolean?
  let file ← get entries "file" none fun v => (string? v).map some
  some { level, json, file }

/-- A section of a document with the keys in it that are not known, empty if it is not there. -/
def section? (document : Table) (name : String) (keys : List String) :
    Option (Table × List String) :=
  get document name ([], []) (entries? keys)

/-- The path of a key of a section. -/
def sectionPath (name key : String) : String := name ++ "." ++ key

/-- A path without the dots in front of it. -/
def normalizePath (path : String) : String := String.ofList (path.toList.dropWhile (· == '.'))

/-- Puts a text in its place in an ascending list, unless it is there. -/
def insertText (s : String) : List String → List String
  | [] => [s]
  | t :: ts => if s < t then s :: t :: ts else if s = t then t :: ts else t :: insertText s ts

/-- The settings of a document, and the paths of the keys that are not known. -/
def settings? (document : Table) : Option (Settings × List String) := do
  let (resolveEntries, unknownResolve) ← section? document "resolve" resolveKeys
  let (loggingEntries, unknownLogging) ← section? document "logging" loggingKeys
  let resolve ← resolve? resolveEntries
  let logging ← logging? loggingEntries
  let unknown := (document.map (·.1)).filter (!sections.contains ·) ++
    unknownResolve.map (sectionPath "resolve") ++ unknownLogging.map (sectionPath "logging")
  some ({ resolve, logging }, (unknown.map normalizePath).foldr insertText [])

end SettingsDocument

namespace Settings

/-- The settings of a document with diagnostics. -/
def ofTable? (document : Toml.Table) : Option (Settings × Diagnostics) :=
  (SettingsDocument.settings? document).map fun (s, unknownKeys) =>
    (s, { unknownKeys, warnings := s.warnings, errors := s.errors })

/-- Loads settings with diagnostics. -/
def load (text : String) : Except LoadError (Settings × Diagnostics) :=
  match (Toml.parse? text).bind ofTable? with
  | some loaded => .ok loaded
  | none => .error .malformed

/-- Loads settings from a file with diagnostics. -/
def loadFile (bytes? : Option ByteArray) : Except LoadError (Settings × Diagnostics) :=
  (fileText bytes?).bind load

end Settings

end CallTargets
