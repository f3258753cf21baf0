import CallTargets.Text.Decimal

/-!
# TOML strings and blanks

The lexical layer of TOML: blanks, line ends, comments, and the four notations for strings.  A reader takes characters from
the front of a text and returns what is left.
-/

namespace CallTargets

namespace Toml

/-! ### Blanks and comments -/

/-- Whether a character is blank within a line. -/
def isBlank (c : Char) : Bool := c = ' ' || c = '\t'

/-- Skips blanks. -/
def skipBlanks (cs : List Char) : List Char := cs.dropWhile isBlank

/-- Takes the end of a line. -/
def newline? : List Char → Option (List Char)
  | '\n' :: rest => some rest
  | '\r' :: '\n' :: rest => some rest
  | _ => none

/-- Whether a character may stand in a text as it is: a tab, or anything but control characters. -/
def isPlain (c : Char) : Bool := c = '\t' || (' ' ≤ c && c.toNat != 127)

/-- Skips a comment. -/
def skipComment : List Char → List Char
  | '#' :: rest => rest.dropWhile isPlain
  | cs => cs

/-- Takes what may follow at the end of a line: blanks, a comment, and the end of the line or of the document. -/
def lineEnd? (cs : List Char) : Option (List Char) :=
  match skipComment (skipBlanks cs) with
  | [] => some []
  | cs => newline? cs

/-- Skips blanks, comments and line ends between the items of an array; `inComment` says where the text starts. -/
def skipTrivia : Bool → List Char → Option (List Char)
  | _, '\n' :: rest => skipTrivia false rest
  | _, '\r' :: '\n' :: rest => skipTrivia false rest
  | false, '#' :: rest => skipTrivia true rest
  | false, c :: rest => if isBlank c then skipTrivia false rest else some (c :: rest)
  | true, c :: rest => if isPlain c then skipTrivia true rest else none
  | false, [] => some []
  | true, [] => none

/-! ### Strings -/

/-- The character with a number, if there is one. -/
def charOf? (n : Nat) : Option Char := if n.isValidChar then some (Char.ofNat n) else none

/-- The character that a one-letter escape stands for. -/
def escapedChar? : Char → Option Char
  | 'b' => some '\x08'
  | 'f' => some '\x0c'
  | 'n' => some '\n'
  | 'r' => some '\r'
  | 't' => some '\t'
  | '"' => some '"'
  | '\\' => some '\\'
  | _ => none

/-- Reads what follows the backslash of an escape. -/
def readEscape : List Char → Option (Char × List Char)
  | 'u' :: rest => readCode 4 rest
  | 'U' :: rest => readCode 8 rest
  | c :: rest => (escapedChar? c).map fun e => (e, rest)
  | [] => none
where
  /-- Reads the number of a character with a fixed count of digits. -/
  readCode (count : Nat) (cs : List Char) : Option (Char × List Char) :=
    let digits := cs.take count
    if digits.length = count && digits.all (isDigitOf 16) then
      (charOf? (ofDigits 16 digits)).map fun c => (c, cs.drop count)
    else none

/-- Reads a string up to its closing quote; the characters read before are `done`, last to first. -/
def readBasic : Nat → List Char → List Char → Option (String × List Char)
  | 0, _, _ => none
  | _ + 1, '"' :: rest, done => some (String.ofList done.reverse, rest)
  | room + 1, '\\' :: rest, done =>
    match readEscape rest with
    | some (c, rest) => readBasic room rest (c :: done)
    | none => none
  | room + 1, c :: rest, done => if isPlain c then readBasic room rest (c :: done) else none
  | _ + 1, [], _ => none

/-- Skips blanks and line ends. -/
def skipLines : List Char → List Char
  | '\r' :: '\n' :: rest => skipLines rest
  | c :: rest => if isBlank c || c = '\n' then skipLines rest else c :: rest
  | [] => []

/-- Reads a string of several lines up to its closing quotes, of which up to two more belong to the string.  A
backslash at the end of a line takes away all blanks and line ends up to the next character. -/
def readMultiBasic : Nat → List Char → List Char → Option (String × List Char)
  | 0, _, _ => none
  | _ + 1, '"' :: '"' :: '"' :: '"' :: '"' :: rest, done =>
    some (String.ofList ('"' :: '"' :: done).reverse, rest)
  | _ + 1, '"' :: '"' :: '"' :: '"' :: rest, done => some (String.ofList ('"' :: done).reverse, rest)
  | _ + 1, '"' :: '"' :: '"' :: rest, done => some (String.ofList done.reverse, rest)
  | room + 1, '\\' :: rest, done =>
    match newline? (skipBlanks rest) with
    | some rest => readMultiBasic room (skipLines rest) done
    | none =>
      match readEscape rest with
      | some (c, rest) => readMultiBasic room rest (c :: done)
      | none => none
  | room + 1, '\n' :: rest, done => readMultiBasic room rest ('\n' :: done)
  | room + 1, '\r' :: '\n' :: rest, done => readMultiBasic room rest ('\n' :: done)
  | room + 1, c :: rest, done => if isPlain c then readMultiBasic room rest (c :: done) else none
  | _ + 1, [], _ => none

/-- Reads a string without escapes up to its closing quote. -/
def readLiteral : List Char → List Char → Option (String × List Char)
  | '\'' :: rest, done => some (String.ofList done.reverse, rest)
  | c :: rest, done => if isPlain c then readLiteral rest (c :: done) else none
  | [], _ => none

/-- Reads a string of several lines without escapes up to its closing quotes, of which up to two more belong to the
string. -/
def readMultiLiteral : List Char → List Char → Option (String × List Char)
  | '\'' :: '\'' :: '\'' :: '\'' :: '\'' :: rest, done =>
    some (String.ofList ('\'' :: '\'' :: done).reverse, rest)
  | '\'' :: '\'' :: '\'' :: '\'' :: rest, done => some (String.ofList ('\'' :: done).reverse, rest)
  | '\'' :: '\'' :: '\'' :: rest, done => some (String.ofList done.reverse, rest)
  | '\n' :: rest, done => readMultiLiteral rest ('\n' :: done)
  | '\r' :: '\n' :: rest, done => readMultiLiteral rest ('\n' :: done)
  | c :: rest, done => if isPlain c then readMultiLiteral rest (c :: done) else none
  | [], _ => none

/-- Drops a line end at the very beginning of a string of several lines. -/
def dropFirstNewline (cs : List Char) : List Char := (newline? cs).getD cs

/-- Reads a string in any of the four notations. -/
def readString : List Char → Option (String × List Char)
  | '"' :: '"' :: '"' :: rest => readMultiBasic (rest.length + 1) (dropFirstNewline rest) []
  | '"' :: rest => readBasic (rest.length + 1) rest []
  | '\'' :: '\'' :: '\'' :: rest => readMultiLiteral (dropFirstNewline rest) []
  | '\'' :: rest => readLiteral rest []
  | _ => none

/-! ### Keys -/

/-- Whether a character may stand in a key without quotes. -/
def isBareKeyChar (c : Char) : Bool :=
  ('a' ≤ c && c ≤ 'z') || ('A' ≤ c && c ≤ 'Z') || ('0' ≤ c && c ≤ '9') || c = '-' || c = '_'

/-- Reads one part of a key. -/
def readSimpleKey : List Char → Option (String × List Char)
  | '"' :: rest => readBasic (rest.length + 1) rest []
  | '\'' :: rest => readLiteral rest []
  | cs =>
    match cs.takeWhile isBareKeyChar with
    | [] => none
    | key => some (String.ofList key, cs.dropWhile isBareKeyChar)

/-- Reads the parts of a dotted key, with blanks around each. -/
def readKeyParts : Nat → List Char → Option (List String × List Char)
  | 0, _ => none
  | room + 1, cs => do
    let (part, rest) ← readSimpleKey (skipBlanks cs)
    match skipBlanks rest with
    | '.' :: rest =>
      let (parts, rest) ← readKeyParts room rest
      some (part :: parts, rest)
    | rest => some ([part], rest)

/-- The greatest number of parts of a key. -/
def maxKeyParts : Nat := 79

/-- Reads a key, with blanks around it. -/
def readKey (cs : List Char) : Option (List String × List Char) := readKeyParts maxKeyParts cs

end Toml

end CallTargets
