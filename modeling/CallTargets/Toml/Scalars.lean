import CallTargets.Toml.Strings
import CallTargets.Toml.Value

/-!
# TOML numbers and dates

Numbers may have underscores between digits.  Whole numbers have 64 bits, and may also be written in the bases 16, 8 and 2.
Dates, times and their combinations are checked against the calendar.
-/

namespace CallTargets

namespace Toml

/-! ### Digits -/

/-- Whether underscores stand only between digits. -/
def wellGrouped : List Char → Bool
  | [] => false
  | ['_'] => false
  | [_] => true
  | '_' :: _ => false
  | _ :: '_' :: rest => wellGrouped rest
  | _ :: rest => wellGrouped rest

/-- Reads digits of a base with underscores between them, and leaves the underscores out. -/
def readDigits (base : Nat) (cs : List Char) : Option (List Char × List Char) :=
  let inRun := fun c => isDigitOf base c || c = '_'
  let run := cs.takeWhile inRun
  if wellGrouped run then some (run.filter (· != '_'), cs.dropWhile inRun) else none

/-- Reads a sign, if there is one; `true` stands for minus. -/
def readSign : List Char → Bool × List Char
  | '-' :: rest => (true, rest)
  | '+' :: rest => (false, rest)
  | cs => (false, cs)

/-- Reads digits of base 10 that do not begin with a zero, unless zero is all there is. -/
def readWhole (cs : List Char) : Option (List Char × List Char) :=
  match cs with
  | '0' :: rest => some (['0'], rest)
  | _ => readDigits 10 cs

/-! ### Numbers -/

/-- The whole number, if it has at most 64 bits. -/
def integer? (n : Int) : Option Value :=
  if -(Int.pow 2 63) ≤ n && n < Int.pow 2 63 then some (.integer n) else none

/-- Reads a whole number in the base that its first two characters tell. -/
def readBased (base : Nat) (cs : List Char) : Option (Value × List Char) := do
  let (digits, rest) ← readDigits base cs
  let value ← integer? (ofDigits base digits)
  some (value, rest)

/-- Reads the exponent of a number, if there is one. -/
def readExponent (cs : List Char) : Option (Option Int × List Char) :=
  match cs with
  | c :: rest =>
    if c = 'e' || c = 'E' then do
      let (negative, rest) := readSign rest
      let (digits, rest) ← readDigits 10 rest
      let n : Int := ofDigits 10 digits
      some (some (if negative then -n else n), rest)
    else some (none, cs)
  | [] => some (none, cs)

/-- Reads the fraction of a number, if there is one. -/
def readFraction : List Char → Option (List Char × List Char)
  | '.' :: rest => readDigits 10 rest
  | cs => some ([], cs)

/-- What stands before `rest` in a text that ends with it. -/
def spelling (cs rest : List Char) : String := String.ofList (cs.take (cs.length - rest.length))

/-- Reads a number in decimal notation.  One with a fraction or an exponent may be below the range of double-precision
numbers, but not above. -/
def readDecimal (cs : List Char) : Option (Value × List Char) := do
  let (negative, unsigned) := readSign cs
  let (whole, rest) ← readWhole unsigned
  let (fraction, rest) ← readFraction rest
  let (exponent?, rest) ← readExponent rest
  if fraction.isEmpty && exponent?.isNone then
    let n : Int := ofDigits 10 whole
    let value ← integer? (if negative then -n else n)
    some (value, rest)
  else
    let magnitude : Decimal := ⟨ofDigits 10 (whole ++ fraction), exponent?.getD 0 - fraction.length⟩
    if !negative && magnitude.overflows then none else some (.float (spelling cs rest), rest)

/-- Reads a number that is infinite or none at all. -/
def readSpecial (cs : List Char) : Option (Value × List Char) :=
  match (readSign cs).2 with
  | 'i' :: 'n' :: 'f' :: rest => some (.float (spelling cs rest), rest)
  | 'n' :: 'a' :: 'n' :: rest => some (.float (spelling cs rest), rest)
  | _ => none

/-- Reads a number. -/
def readNumber (cs : List Char) : Option (Value × List Char) :=
  match cs with
  | '0' :: 'x' :: rest => readBased 16 rest
  | '0' :: 'o' :: rest => readBased 8 rest
  | '0' :: 'b' :: rest => readBased 2 rest
  | _ => (readSpecial cs).orElse fun _ => readDecimal cs

/-! ### Dates and times -/

/-- Reads a number of exactly `count` digits between two bounds. -/
def readField (count least greatest : Nat) (cs : List Char) : Option (Nat × List Char) :=
  let digits := cs.take count
  let n := ofDigits 10 digits
  if digits.length = count && digits.all (isDigitOf 10) && least ≤ n && n ≤ greatest then
    some (n, cs.drop count)
  else none

/-- Takes one character. -/
def expect (c : Char) : List Char → Option (List Char)
  | d :: rest => if d = c then some rest else none
  | [] => none

/-- Whether a year has a 29th of February. -/
def isLeapYear (year : Nat) : Bool := year % 4 = 0 && (year % 100 != 0 || year % 400 = 0)

/-- The number of days of a month. -/
def daysOfMonth (year month : Nat) : Nat :=
  if month = 2 then if isLeapYear year then 29 else 28
  else if month = 4 || month = 6 || month = 9 || month = 11 then 30
  else 31

/-- Takes a date. -/
def skipDate (cs : List Char) : Option (List Char) := do
  let (year, rest) ← readField 4 0 9999 cs
  let rest ← expect '-' rest
  let (month, rest) ← readField 2 1 12 rest
  let rest ← expect '-' rest
  let (_, rest) ← readField 2 1 (daysOfMonth year month) rest
  some rest

/-- Takes a fraction of a second, if there is one. -/
def skipSecondFraction (cs : List Char) : List Char :=
  match cs with
  | '.' :: rest => if (rest.takeWhile (isDigitOf 10)).isEmpty then cs else rest.dropWhile (isDigitOf 10)
  | _ => cs

/-- Takes a time of day. -/
def skipTime (cs : List Char) : Option (List Char) := do
  let (_, rest) ← readField 2 0 23 cs
  let rest ← expect ':' rest
  let (_, rest) ← readField 2 0 59 rest
  let rest ← expect ':' rest
  let (_, rest) ← readField 2 0 60 rest
  some (skipSecondFraction rest)

/-- Takes the difference to universal time, if there is one. -/
def skipOffset (cs : List Char) : Option (List Char) :=
  match cs with
  | 'Z' :: rest => some rest
  | 'z' :: rest => some rest
  | c :: rest =>
    if c = '+' || c = '-' then do
      let (_, rest) ← readField 2 0 23 rest
      let rest ← expect ':' rest
      let (_, rest) ← readField 2 0 59 rest
      some rest
    else some cs
  | [] => some cs

/-- Takes the time that may follow a date. -/
def skipTimeAfterDate (cs : List Char) : Option (List Char) :=
  match cs with
  | c :: rest =>
    if c = 'T' || c = 't' || c = ' ' then
      match skipTime rest with
      | some rest => skipOffset rest
      | none => some cs
    else some cs
  | [] => some cs

/-- Reads a date, a time, or both. -/
def readDatetime (cs : List Char) : Option (Value × List Char) :=
  (((skipDate cs).bind skipTimeAfterDate).orElse fun _ => skipTime cs).map fun rest =>
    (.datetime (spelling cs rest), rest)

/-- Reads a value that has no parts. -/
def readScalar (cs : List Char) : Option (Value × List Char) :=
  match cs with
  | '"' :: _ => (readString cs).map fun (s, rest) => (.string s, rest)
  | '\'' :: _ => (readString cs).map fun (s, rest) => (.string s, rest)
  | 't' :: 'r' :: 'u' :: 'e' :: rest => some (.boolean true, rest)
  | 'f' :: 'a' :: 'l' :: 's' :: 'e' :: rest => some (.boolean false, rest)
  | _ => (readDatetime cs).orElse fun _ => readNumber cs

end Toml

end CallTargets
