import CallTargets.Settings.Basic
import CallTargets.Text.Alphanumeric
import CallTargets.Text.Blank
import CallTargets.Text.Decimal

/-!
# Log filters

A log filter is a list of directives, each of which sets the least severe level that is logged, for all targets or for one.
Its text has the directives with commas between them: a level, a target, or a target and a level with an equals sign
between them.

The filter in force combines the level of the settings with the directives of the environment.
-/

namespace CallTargets

/-- The least severe level that is logged. -/
inductive LogLevel where
  | off
  | error
  | warn
  | info
  | debug
  | trace
  deriving DecidableEq, Repr, Inhabited

namespace LogLevel

/-- All levels, from the one that logs nothing to the one that logs everything. -/
def all : List LogLevel := [off, error, warn, info, debug, trace]

/-- The name of a level. -/
def name : LogLevel → String
  | off => "off"
  | error => "error"
  | warn => "warn"
  | info => "info"
  | debug => "debug"
  | trace => "trace"

/-- The level of a name in capital or small letters. -/
def ofName? (text : String) : Option LogLevel := all.find? (·.name == text.toLower)

/-- The level of a number, which may have a plus sign in front. -/
def ofNumber? (text : String) : Option LogLevel :=
  let digits := match text.toList with
    | '+' :: rest => rest
    | cs => cs
  if digits.isEmpty || !digits.all (isDigitOf 10) then none else all[ofDigits 10 digits]?

/-- The level of a name or a number. -/
def parse? (text : String) : Option LogLevel := (ofNumber? text).orElse fun _ => ofName? text

end LogLevel

/-- A directive of a log filter. -/
structure LogDirective where
  /-- The target, or none for all targets. -/
  target? : Option String
  /-- The least severe level that is logged. -/
  level : LogLevel
  deriving DecidableEq, Repr, Inhabited

/-- The text of a directive. -/
def LogDirective.display (d : LogDirective) : String :=
  match d.target? with
  | some target => target ++ "=" ++ d.level.name
  | none => d.level.name

/-- The directives in force, each target once. -/
abbrev LogFilter := List LogDirective

namespace LogFilter

/-! ### The text of a filter -/

/-- The pieces of a text between commas. -/
def pieces : List Char → List (List Char)
  | [] => [[]]
  | c :: cs =>
    match pieces cs with
    | [] => [[c]]
    | piece :: rest => if c = ',' then [] :: piece :: rest else (c :: piece) :: rest

/-- Whether a directive may begin with a character. -/
def startsDirective (c : Char) : Bool := c = '-' || c = ':' || c = '_' || isAlphanumeric c

/-- The level that stands behind an equals sign; nothing at all stands for the level that logs everything. -/
def levelAfter? : List Char → Option LogLevel
  | [] => some .trace
  | text => LogLevel.parse? (String.ofList text)

/-- The directive of a piece with an equals sign, which stands after `count` characters. -/
def targeted? (count : Nat) (piece : List Char) : Option LogDirective :=
  (levelAfter? (piece.drop (count + 1))).map fun level => ⟨some (String.ofList (piece.take count)), level⟩

/-- The directive of a piece without an equals sign: a level, or else a target of which everything is logged. -/
def untargeted (piece : String) : LogDirective :=
  match LogLevel.parse? piece with
  | some level => ⟨none, level⟩
  | none => ⟨some piece, .trace⟩

/-- The directive of a piece.  The place of the equals sign is counted without the white space in front, and then
taken in the piece as it stands. -/
def directive? (piece : List Char) : Option LogDirective :=
  match trimChars piece with
  | [] => none
  | c :: cs =>
    if !startsDirective c then none
    else if (c :: cs).contains '=' then
      targeted? ((c :: cs).takeWhile (· != '=')).length piece
    else some (untargeted (String.ofList piece))

/-- The filter with one more directive, which takes the place of one for the same target. -/
def add (f : LogFilter) (d : LogDirective) : LogFilter := f.filter (·.target? != d.target?) ++ [d]

/-- The filter of some directives, of which there may be none. -/
def ofDirectives (ds : List LogDirective) : LogFilter := ds.foldl add []

/-- The filter of a text. -/
def parse? (text : String) : Option LogFilter :=
  (((pieces text.toList).filter (!·.isEmpty)).mapM directive?).map ofDirectives

/-- The texts of the directives, ascending. -/
def display (f : LogFilter) : List String := (f.map LogDirective.display).mergeSort

end LogFilter

namespace LogSettings

/-! ### The filter in force -/

/-- The directives that a level stands for: the name of a level is freed of blanks and capital letters, anything else of
the blanks around it, and nothing at all is the default level. -/
def normalize (level : String) : String :=
  let trimmed := trimText level
  if trimmed.isEmpty then "info"
  else
    match trimmed.toLower with
    | "trace" => "trace"
    | "debug" => "debug"
    | "info" => "info"
    | "warn" => "warn"
    | "warning" => "warn"
    | "error" => "error"
    | _ => trimmed

/-- The filter of a level by itself. -/
def ownFilter (level : String) : LogFilter :=
  (LogFilter.parse? (normalize level)).getD [⟨none, .info⟩]

/-- The filter of a level with the directives of the environment, if there are any. -/
def filter (level : String) (environment? : Option String) : LogFilter :=
  match (environment?.map trimText).filter (!·.isEmpty) with
  | none => ownFilter level
  | some directives =>
    (((LogFilter.parse? (normalize level ++ "," ++ directives)).orElse fun _ =>
      LogFilter.parse? directives).getD (ownFilter level))

end LogSettings

end CallTargets
