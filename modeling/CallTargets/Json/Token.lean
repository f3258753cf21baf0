import CallTargets.Json.Basic

/-!
# JSON tokens

The lexical layer: punctuation, words, numbers and strings, with blanks between them.  A string literal is read in two
steps, first into characters and escaped code units, then into the text that they denote.
-/

namespace CallTargets

namespace Json

/-- A token. -/
inductive Token where
  | openArr
  | closeArr
  | openObj
  | closeObj
  | comma
  | colon
  | null
  | bool (b : Bool)
  | num (n : Number)
  | str (s : Text)
  deriving DecidableEq, Repr

/-! ### Strings -/

/-- A part of a string literal. -/
inductive Piece where
  /-- A character. -/
  | char (c : Char)
  /-- A code unit of 16 bits, escaped by its number. -/
  | unit (n : Nat)
  deriving DecidableEq, Repr

/-- Whether a code unit is the first half of a surrogate pair. -/
def isHighSurrogate (n : Nat) : Bool := 0xD800 ≤ n && n < 0xDC00

/-- Whether a code unit is the second half of a surrogate pair. -/
def isLowSurrogate (n : Nat) : Bool := 0xDC00 ≤ n && n < 0xE000

/-- The character of a surrogate pair. -/
def ofSurrogates (high low : Nat) : Char :=
  Char.ofNat (0x10000 + (high - 0xD800) * 0x400 + (low - 0xDC00))

/-- Puts pieces together after the characters `done`, which stand last to first. -/
def assemble : List Piece → List Char → Text
  | [], done => some (String.ofList done.reverse)
  | .char c :: rest, done => assemble rest (c :: done)
  | .unit n :: .unit m :: rest, done =>
    if isHighSurrogate n then
      if isLowSurrogate m then assemble rest (ofSurrogates n m :: done) else none
    else if isLowSurrogate n then none
    else assemble (.unit m :: rest) (Char.ofNat n :: done)
  | .unit n :: rest, done =>
    if isHighSurrogate n || isLowSurrogate n then none else assemble rest (Char.ofNat n :: done)

/-- The character that a one-letter escape stands for. -/
def escapedChar? : Char → Option Char
  | '"' => some '"'
  | '\\' => some '\\'
  | '/' => some '/'
  | 'b' => some '\x08'
  | 'f' => some '\x0c'
  | 'n' => some '\n'
  | 'r' => some '\r'
  | 't' => some '\t'
  | _ => none

/-- Whether a character may stand in a string literal as it is. -/
def isPlain (c : Char) : Bool := ' ' ≤ c && c != '"' && c != '\\'

/-- Reads the pieces of a string literal up to the closing quote; those read before are `done`, last to first. -/
def readPieces : List Char → List Piece → Option (List Piece × List Char)
  | [], _ => none
  | '"' :: rest, done => some (done.reverse, rest)
  | '\\' :: 'u' :: a :: b :: c :: d :: rest, done =>
    if [a, b, c, d].all (isDigitOf 16) then readPieces rest (.unit (ofDigits 16 [a, b, c, d]) :: done)
    else none
  | '\\' :: e :: rest, done =>
    match escapedChar? e with
    | some c => readPieces rest (.char c :: done)
    | none => none
  | c :: rest, done => if isPlain c then readPieces rest (.char c :: done) else none

/-! ### Numbers -/

/-- Whether a character is a decimal digit. -/
def isDigit (c : Char) : Bool := isDigitOf 10 c

/-- Reads digits; there has to be one. -/
def readDigits (cs : List Char) : Option (List Char × List Char) :=
  match cs.takeWhile isDigit with
  | [] => none
  | d :: ds => some (d :: ds, cs.dropWhile isDigit)

/-- Reads the whole part of a number: digits without a leading zero, unless zero is all there is. -/
def readWhole (cs : List Char) : Option (List Char × List Char) :=
  match readDigits cs with
  | some ('0' :: _ :: _, _) => none
  | r => r

/-- Reads the fraction of a number, if there is one. -/
def readFraction : List Char → Option (List Char × List Char)
  | '.' :: rest => readDigits rest
  | cs => some ([], cs)

/-- Reads a sign. -/
def readSign : List Char → Bool × List Char
  | '-' :: rest => (true, rest)
  | '+' :: rest => (false, rest)
  | cs => (false, cs)

/-- Reads the exponent of a number, if there is one. -/
def readExponent (cs : List Char) : Option (Option Int × List Char) :=
  match cs with
  | c :: rest =>
    if c = 'e' || c = 'E' then
      match readDigits (readSign rest).2 with
      | some (ds, after) =>
        some (some (if (readSign rest).1 then -(ofDigits 10 ds : Int) else ofDigits 10 ds), after)
      | none => none
    else some (none, cs)
  | [] => some (none, cs)

/-- Reads a number without its sign. -/
def readUnsigned (negative : Bool) (cs : List Char) : Option (Number × List Char) := do
  let (whole, rest) ← readWhole cs
  let (fraction, rest) ← readFraction rest
  let (exponent?, rest) ← readExponent rest
  if !negative && fraction.isEmpty && exponent?.isNone then
    some (.natural (ofDigits 10 whole), rest)
  else
    some (.other negative ⟨ofDigits 10 (whole ++ fraction), exponent?.getD 0 - fraction.length⟩, rest)

/-- Reads a number. -/
def readNumber : List Char → Option (Number × List Char)
  | '-' :: rest => readUnsigned true rest
  | cs => readUnsigned false cs

/-! ### Tokens -/

/-- Whether a character is blank between tokens. -/
def isBlank (c : Char) : Bool := c = ' ' || c = '\n' || c = '\t' || c = '\r'

/-- Reads one token at a character that is not blank. -/
def readToken : List Char → Option (Token × List Char)
  | '[' :: rest => some (.openArr, rest)
  | ']' :: rest => some (.closeArr, rest)
  | '{' :: rest => some (.openObj, rest)
  | '}' :: rest => some (.closeObj, rest)
  | ',' :: rest => some (.comma, rest)
  | ':' :: rest => some (.colon, rest)
  | '"' :: rest => (readPieces rest []).map fun (pieces, rest) => (.str (assemble pieces []), rest)
  | 'n' :: 'u' :: 'l' :: 'l' :: rest => some (.null, rest)
  | 't' :: 'r' :: 'u' :: 'e' :: rest => some (.bool true, rest)
  | 'f' :: 'a' :: 'l' :: 's' :: 'e' :: rest => some (.bool false, rest)
  | cs => (readNumber cs).map fun (n, rest) => (.num n, rest)

/-! ### Progress -/

theorem readPieces_length {cs rest : List Char} {done ps : List Piece}
    (h : readPieces cs done = some (ps, rest)) : rest.length < cs.length := by
  fun_induction readPieces cs done with
  | case1 => simp at h
  | case2 tail done =>
    simp only [Option.some.injEq, Prod.mk.injEq] at h
    simp [h.2]
  | case3 a b c d tail done _ ih =>
    have := ih h
    simp only [List.length_cons]
    omega
  | case4 => simp at h
  | case5 e tail done _ c _ ih =>
    have := ih h
    simp only [List.length_cons]
    omega
  | case6 => simp at h
  | case7 c tail done _ _ _ _ ih =>
    have := ih h
    simp only [List.length_cons]
    omega
  | case8 => simp at h

theorem readDigits_length {cs ds rest : List Char} (h : readDigits cs = some (ds, rest)) :
    rest.length < cs.length := by
  unfold readDigits at h
  split at h
  · simp at h
  · rename_i d ds' hd
    simp only [Option.some.injEq, Prod.mk.injEq] at h
    have hlen := congrArg List.length (List.takeWhile_append_dropWhile (p := isDigit) (l := cs))
    rw [hd, List.length_append, List.length_cons] at hlen
    rw [← h.2]
    omega

theorem readWhole_length {cs ds rest : List Char} (h : readWhole cs = some (ds, rest)) :
    rest.length < cs.length := by
  unfold readWhole at h
  split at h
  · simp at h
  · exact readDigits_length h

theorem readFraction_length {cs ds rest : List Char} (h : readFraction cs = some (ds, rest)) :
    rest.length ≤ cs.length := by
  unfold readFraction at h
  split at h
  · have := readDigits_length h
    simp only [List.length_cons]
    omega
  · simp only [Option.some.injEq, Prod.mk.injEq] at h
    simp [h.2]

theorem readSign_length (cs : List Char) : (readSign cs).2.length ≤ cs.length := by
  unfold readSign
  split <;> simp

theorem readExponent_length {cs rest : List Char} {e : Option Int}
    (h : readExponent cs = some (e, rest)) : rest.length ≤ cs.length := by
  unfold readExponent at h
  split at h
  · rename_i c tail
    split at h
    · have hsign := readSign_length tail
      split at h
      · rename_i ds after hd
        have hdigits := readDigits_length hd
        simp only [Option.some.injEq, Prod.mk.injEq] at h
        rw [← h.2, List.length_cons]
        omega
      · simp at h
    · simp only [Option.some.injEq, Prod.mk.injEq] at h
      simp [← h.2]
  · simp only [Option.some.injEq, Prod.mk.injEq] at h
    simp [← h.2]

theorem readUnsigned_length {negative : Bool} {cs rest : List Char} {n : Number}
    (h : readUnsigned negative cs = some (n, rest)) : rest.length < cs.length := by
  unfold readUnsigned at h
  simp only [Option.bind_eq_bind, Option.bind_eq_some_iff] at h
  obtain ⟨⟨whole, r₁⟩, h₁, ⟨fraction, r₂⟩, h₂, ⟨exponent, r₃⟩, h₃, h⟩ := h
  have hw : r₁.length < cs.length := readWhole_length h₁
  have hf : r₂.length ≤ r₁.length := readFraction_length h₂
  have he : r₃.length ≤ r₂.length := readExponent_length h₃
  split at h <;> simp only [Option.some.injEq, Prod.mk.injEq] at h <;> rw [← h.2] <;> omega

theorem readNumber_length {cs rest : List Char} {n : Number}
    (h : readNumber cs = some (n, rest)) : rest.length < cs.length := by
  unfold readNumber at h
  split at h
  · have := readUnsigned_length h
    simp only [List.length_cons]
    omega
  · exact readUnsigned_length h

/-- A token takes at least one character. -/
theorem readToken_length {cs rest : List Char} {t : Token}
    (h : readToken cs = some (t, rest)) : rest.length < cs.length := by
  unfold readToken at h
  split at h
  case h_7 =>
    obtain ⟨⟨pieces, r⟩, hp, hr⟩ := Option.map_eq_some_iff.1 h
    have := readPieces_length hp
    simp only [Prod.mk.injEq] at hr
    rw [← hr.2, List.length_cons]
    omega
  case h_11 =>
    obtain ⟨⟨n, r⟩, hn, hr⟩ := Option.map_eq_some_iff.1 h
    simp only [Prod.mk.injEq] at hr
    rw [← hr.2]
    exact readNumber_length hn
  all_goals
    simp only [Option.some.injEq, Prod.mk.injEq] at h
    rw [← h.2]
    simp only [List.length_cons]
    omega

/-- Reads tokens to the end of a text; those read before are `done`, last to first. -/
def readTokens (cs : List Char) (done : List Token) : Option (List Token) :=
  match cs with
  | [] => some done.reverse
  | c :: rest =>
    if isBlank c then readTokens rest done
    else
      match h : readToken (c :: rest) with
      | none => none
      | some (t, after) =>
        have : after.length < (c :: rest).length := readToken_length h
        readTokens after (t :: done)
termination_by cs.length
decreasing_by
  · exact Nat.lt_succ_self rest.length
  · exact this

end Json

end CallTargets
