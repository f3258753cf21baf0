import CallTargets.Json.Basic

/-!
# Writing JSON

The compact text of a value: no blanks, and in strings nothing is escaped but quotes, backslashes and control characters.
-/

namespace CallTargets

namespace Json

/-- A digit below 16, in lower case. -/
def hexDigit (n : Nat) : Char := if n < 10 then Char.ofNat (48 + n) else Char.ofNat (87 + n)

/-- A character as it is written in a string. -/
def writeChar (c : Char) : List Char :=
  if c = '"' then ['\\', '"']
  else if c = '\\' then ['\\', '\\']
  else if c = '\x08' then ['\\', 'b']
  else if c = '\x0c' then ['\\', 'f']
  else if c = '\n' then ['\\', 'n']
  else if c = '\r' then ['\\', 'r']
  else if c = '\t' then ['\\', 't']
  else if c < ' ' then ['\\', 'u', '0', '0', hexDigit (c.toNat / 16), hexDigit (c.toNat % 16)]
  else [c]

/-- A string literal; one that denotes no text is written as half a surrogate pair. -/
def writeText : Text → List Char
  | some s => '"' :: (s.toList.flatMap writeChar ++ ['"'])
  | none => '"' :: '\\' :: 'u' :: 'd' :: '8' :: '0' :: '0' :: ['"']

/-- The decimal digits of a natural number. -/
def writeNat (n : Nat) : List Char := Nat.toDigits 10 n

/-- A number literal. -/
def writeNumber : Number → List Char
  | .natural n => writeNat n
  | .other negative ⟨mantissa, exponent⟩ =>
    (if negative then ['-'] else []) ++ writeNat mantissa ++
      'e' :: ((if exponent < 0 then ['-'] else []) ++ writeNat exponent.natAbs)

mutual

/-- The compact text of a value, in front of `rest`. -/
def writeOnto : Json → List Char → List Char
  | .null, rest => 'n' :: 'u' :: 'l' :: 'l' :: rest
  | .bool true, rest => 't' :: 'r' :: 'u' :: 'e' :: rest
  | .bool false, rest => 'f' :: 'a' :: 'l' :: 's' :: 'e' :: rest
  | .num n, rest => writeNumber n ++ rest
  | .str s, rest => writeText s ++ rest
  | .arr [], rest => '[' :: ']' :: rest
  | .arr (v :: vs), rest => '[' :: writeOnto v (writeItems vs rest)
  | .obj [], rest => '{' :: '}' :: rest
  | .obj ((k, v) :: fields), rest =>
    '{' :: (writeText k ++ ':' :: writeOnto v (writeFields fields rest))

/-- The further items of an array and its end. -/
def writeItems : List Json → List Char → List Char
  | [], rest => ']' :: rest
  | v :: vs, rest => ',' :: writeOnto v (writeItems vs rest)

/-- The further fields of an object and its end. -/
def writeFields : List (Text × Json) → List Char → List Char
  | [], rest => '}' :: rest
  | (k, v) :: fields, rest =>
    ',' :: (writeText k ++ ':' :: writeOnto v (writeFields fields rest))

end

/-- The compact text of a value. -/
def compress (v : Json) : String := String.ofList (v.writeOnto [])

end Json

end CallTargets
