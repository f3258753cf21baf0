import CallTargets.Json.Reader
import CallTargets.Json.Writer
import Mathlib.Tactic.Lemma

/-!
# Reading JSON that was written

The compact text of a value is read back as that value, whatever the value is.

* Leaves first: `readToken_writeText` for strings and `readToken_writeNumber` for numbers, each with any text behind it.
  Behind a number, that text must not go on with it (`Json.Delimits`).
* `Json.tokens` is the sequence of tokens of a value.  `readTokens_writeOnto` says that its text is cut into these, and
  `foldlM_tokens` that the reading machine builds the value from them, under any stack of open arrays and objects.
* `parse?_compress` puts the two together.
-/

namespace CallTargets

namespace Json

/-! ### Strings -/

lemma readPieces_unit {a b c d : Char} (hd : [a, b, c, d].all (isDigitOf 16) = true) (rest : List Char)
    (done : List Piece) : readPieces ('\\' :: 'u' :: a :: b :: c :: d :: rest) done =
      readPieces rest (.unit (ofDigits 16 [a, b, c, d]) :: done) := by
  rw [readPieces, if_pos hd]

lemma readPieces_escape {e c : Char} (he : escapedChar? e = some c) (rest : List Char)
    (done : List Piece) : readPieces ('\\' :: e :: rest) done = readPieces rest (.char c :: done) := by
  have hu : e ≠ 'u' := by
    rintro rfl
    exact absurd he (by simp [escapedChar?])
  rw [readPieces, he]
  intro a b c d tail heu
  exact absurd heu hu

lemma readPieces_plain {c : Char} (hc : isPlain c = true) (rest : List Char) (done : List Piece) :
    readPieces (c :: rest) done = readPieces rest (.char c :: done) := by
  have hquote : c ≠ '"' := by
    rintro rfl
    exact absurd hc (by decide)
  have hslash : c ≠ '\\' := by
    rintro rfl
    exact absurd hc (by decide)
  rw [readPieces, if_pos hc]
  · exact hquote
  · intro a b c d tail hcs
    exact absurd hcs hslash
  · intro e tail hcs
    exact absurd hcs hslash

/-- A code unit below the surrogates stands for a character by itself, whatever follows. -/
lemma assemble_unit {n : Nat} (hn : n < 0xD800) (ps : List Piece) (done : List Char) :
    assemble (.unit n :: ps) done = assemble ps (Char.ofNat n :: done) := by
  have hhigh : isHighSurrogate n = false := by simp [isHighSurrogate]; omega
  have hlow : isLowSurrogate n = false := by simp [isLowSurrogate]; omega
  cases ps with
  | nil => simp [assemble, hhigh, hlow]
  | cons p ps =>
    cases p with
    | char c => simp [assemble, hhigh, hlow]
    | unit m => simp [assemble, hhigh, hlow]

/-- The two last digits of an escaped control character. -/
lemma ofDigits_hexDigit : ∀ n < 32,
    ['0', '0', hexDigit (n / 16), hexDigit (n % 16)].all (isDigitOf 16) = true ∧
      ofDigits 16 ['0', '0', hexDigit (n / 16), hexDigit (n % 16)] = n := by
  decide

/-- The three ways to write a character: escaped by a letter, escaped by its number, or as it is. -/
lemma writeChar_cases (c : Char) :
    (∃ e, escapedChar? e = some c ∧ writeChar c = ['\\', e]) ∨
      (c.toNat < 32 ∧
        writeChar c = ['\\', 'u', '0', '0', hexDigit (c.toNat / 16), hexDigit (c.toNat % 16)]) ∨
      (isPlain c = true ∧ writeChar c = [c]) := by
  by_cases hquote : c = '"'
  · exact Or.inl ⟨'"', by rw [hquote]; rfl, by rw [hquote]; rfl⟩
  by_cases hslash : c = '\\'
  · exact Or.inl ⟨'\\', by rw [hslash]; rfl, by rw [hslash]; rfl⟩
  by_cases hb : c = '\x08'
  · exact Or.inl ⟨'b', by rw [hb]; rfl, by rw [hb]; rfl⟩
  by_cases hf : c = '\x0c'
  · exact Or.inl ⟨'f', by rw [hf]; rfl, by rw [hf]; rfl⟩
  by_cases hn : c = '\n'
  · exact Or.inl ⟨'n', by rw [hn]; rfl, by rw [hn]; rfl⟩
  by_cases hr : c = '\r'
  · exact Or.inl ⟨'r', by rw [hr]; rfl, by rw [hr]; rfl⟩
  by_cases ht : c = '\t'
  · exact Or.inl ⟨'t', by rw [ht]; rfl, by rw [ht]; rfl⟩
  rw [writeChar, if_neg hquote, if_neg hslash, if_neg hb, if_neg hf, if_neg hn, if_neg hr, if_neg ht]
  by_cases hcontrol : c < ' '
  · exact Or.inr (Or.inl ⟨hcontrol, if_pos hcontrol⟩)
  · have hle : ' ' ≤ c := Char.not_lt.1 hcontrol
    exact Or.inr (Or.inr ⟨by simp [isPlain, hle, hquote, hslash], if_neg hcontrol⟩)

/-- A character as it is written is read as one piece that stands for it, whatever comes before and after. -/
lemma exists_piece (c : Char) :
    ∃ p : Piece, (∀ rest done, readPieces (writeChar c ++ rest) done = readPieces rest (p :: done)) ∧
      ∀ ps done, assemble (p :: ps) done = assemble ps (c :: done) := by
  rcases writeChar_cases c with ⟨e, he, hwrite⟩ | ⟨hn, hwrite⟩ | ⟨hplain, hwrite⟩
  · rw [hwrite]
    exact ⟨.char c, readPieces_escape he, fun ps done => rfl⟩
  · rw [hwrite]
    obtain ⟨hdigits, hvalue⟩ := ofDigits_hexDigit c.toNat hn
    refine ⟨.unit c.toNat, fun rest done => ?_, fun ps done => ?_⟩
    · have hread := readPieces_unit hdigits rest done
      rw [hvalue] at hread
      exact hread
    · rw [assemble_unit (by omega), Char.ofNat_toNat]
  · rw [hwrite]
    exact ⟨.char c, readPieces_plain hplain, fun ps done => rfl⟩

/-- The same for all characters of a string. -/
lemma exists_pieces (cs : List Char) :
    ∃ ps : List Piece, (∀ rest done, readPieces (cs.flatMap writeChar ++ rest) done =
        readPieces rest (ps.reverse ++ done)) ∧
      ∀ done, assemble ps done = some (String.ofList (done.reverse ++ cs)) := by
  induction cs with
  | nil => exact ⟨[], fun rest done => rfl, fun done => by simp [assemble]⟩
  | cons c cs ih =>
    obtain ⟨p, hread, hassemble⟩ := exists_piece c
    obtain ⟨ps, hreads, hassembles⟩ := ih
    refine ⟨p :: ps, fun rest done => ?_, fun done => ?_⟩
    · rw [List.flatMap_cons, List.append_assoc, hread, hreads]
      simp
    · rw [hassemble, hassembles]
      simp

/-- **A string literal** is read back, whatever follows. -/
lemma readToken_writeText (s : Text) (rest : List Char) :
    readToken (writeText s ++ rest) = some (.str s, rest) := by
  cases s with
  | none => rfl
  | some s =>
    obtain ⟨ps, hread, hassemble⟩ := exists_pieces s.toList
    have hpieces : readPieces (s.toList.flatMap writeChar ++ '"' :: rest) [] = some (ps, rest) := by
      rw [hread]
      simp [readPieces]
    have hwrite : writeText (some s) ++ rest = '"' :: (s.toList.flatMap writeChar ++ '"' :: rest) := by
      simp [writeText]
    rw [hwrite]
    change (readPieces _ []).map _ = _
    rw [hpieces]
    simp [hassemble]

/-! ### Numbers -/

/-- Nothing at the front of `rest` could belong to a number before it. -/
def Delimits (rest : List Char) : Prop :=
  ∀ c ∈ rest.head?, isDigit c = false ∧ c ≠ '.' ∧ c ≠ 'e' ∧ c ≠ 'E'

lemma digitValue?_digitChar : ∀ d < 10, digitValue? d.digitChar = some d := by
  decide

/-- The digits of a number: what they denote, that they are digits, and that no zero leads them. -/
lemma writeNat_digits (n : Nat) :
    ofDigits 10 (writeNat n) = n ∧ (∀ c ∈ writeNat n, isDigit c = true) ∧
      (0 < n → (writeNat n).head? ≠ some '0') := by
  rw [writeNat]
  induction n using Nat.strongRecOn with
  | ind n ih =>
    have hlast := digitValue?_digitChar (n % 10) (Nat.mod_lt n (by decide))
    have hdigit : isDigit (n % 10).digitChar = true := by
      simp only [isDigit, isDigitOf, hlast, decide_eq_true_eq]
      omega
    by_cases hn : n < 10
    · have hmod : n % 10 = n := Nat.mod_eq_of_lt hn
      rw [hmod] at hlast hdigit
      rw [Nat.toDigits_of_lt_base hn]
      refine ⟨by simp [ofDigits, hlast], by simpa using hdigit, fun hpos hhead => ?_⟩
      have hzero : n.digitChar = '0' := by simpa using hhead
      rw [hzero] at hlast
      have : (0 : Nat) = n := by simpa [digitValue?] using hlast
      omega
    · obtain ⟨hvalue, hall, hhead⟩ := ih (n / 10) (Nat.div_lt_self (by omega) (by decide))
      rw [Nat.toDigits_of_base_le (by decide) (by omega)]
      refine ⟨?_, ?_, fun _ => ?_⟩
      · rw [ofDigits_append_singleton, hvalue, hlast, Option.getD_some]
        omega
      · intro c hc
        rcases List.mem_append.1 hc with hc | hc
        · exact hall c hc
        · rw [List.mem_singleton.1 hc]
          exact hdigit
      · obtain ⟨d, ds, hcons⟩ := List.exists_cons_of_ne_nil (Nat.toDigits_ne_nil (n := n / 10) (b := 10))
        rw [hcons] at hhead ⊢
        exact hhead (by omega)

lemma exists_writeNat_cons (n : Nat) : ∃ d ds, writeNat n = d :: ds ∧ isDigit d = true := by
  obtain ⟨d, ds, hcons⟩ := List.exists_cons_of_ne_nil (Nat.toDigits_ne_nil (n := n) (b := 10))
  have hmem : d ∈ writeNat n := by simp [writeNat, hcons]
  exact ⟨d, ds, hcons, (writeNat_digits n).2.1 d hmem⟩

/-- Digits are read up to the first character that is none. -/
lemma readDigits_append {ds rest : List Char} (hne : ds ≠ []) (hds : ∀ c ∈ ds, isDigit c = true)
    (hrest : ∀ c ∈ rest.head?, isDigit c = false) : readDigits (ds ++ rest) = some (ds, rest) := by
  have hstop : rest.takeWhile isDigit = [] ∧ rest.dropWhile isDigit = rest := by
    cases rest with
    | nil => exact ⟨rfl, rfl⟩
    | cons c rest => simp [hrest c rfl]
  obtain ⟨d, ds', rfl⟩ := List.exists_cons_of_ne_nil hne
  rw [readDigits, List.takeWhile_append_of_pos hds, List.dropWhile_append_of_pos hds, hstop.1, hstop.2,
    List.append_nil]

lemma readDigits_writeNat (n : Nat) {rest : List Char} (hrest : ∀ c ∈ rest.head?, isDigit c = false) :
    readDigits (writeNat n ++ rest) = some (writeNat n, rest) :=
  readDigits_append Nat.toDigits_ne_nil (writeNat_digits n).2.1 hrest

/-- The whole part of a number is read back; a zero does not lead it unless it is all there is. -/
lemma readWhole_writeNat (n : Nat) {rest : List Char} (hrest : ∀ c ∈ rest.head?, isDigit c = false) :
    readWhole (writeNat n ++ rest) = some (writeNat n, rest) := by
  have hdigits := readDigits_writeNat n hrest
  rw [readWhole]
  split
  · rename_i d ds after hlead
    have hcons : writeNat n = '0' :: d :: ds := by
      simpa using congrArg (Option.map Prod.fst) (hdigits.symm.trans hlead)
    rcases Nat.eq_zero_or_pos n with rfl | hpos
    · exact absurd hcons (by simp [writeNat])
    · exact absurd (by rw [hcons]; rfl) ((writeNat_digits n).2.2 hpos)
  · exact hdigits

lemma readFraction_of_delimits {rest : List Char} (hrest : Delimits rest) :
    readFraction rest = some ([], rest) := by
  cases rest with
  | nil => rfl
  | cons c rest =>
    rw [readFraction]
    intro tail hcons
    exact absurd (List.cons.inj hcons).1 (hrest c rfl).2.1

lemma readExponent_of_delimits {rest : List Char} (hrest : Delimits rest) :
    readExponent rest = some (none, rest) := by
  cases rest with
  | nil => rfl
  | cons c rest =>
    obtain ⟨-, -, he, hE⟩ := hrest c rfl
    simp [readExponent, he, hE]

/-- An exponent is read back with its sign. -/
lemma readExponent_write (e : Int) {rest : List Char} (hrest : Delimits rest) :
    readExponent ('e' :: ((if e < 0 then ['-'] else []) ++ writeNat e.natAbs ++ rest)) =
      some (some e, rest) := by
  have hdigits := readDigits_writeNat e.natAbs fun c hc => (hrest c hc).1
  have hvalue := (writeNat_digits e.natAbs).1
  by_cases hneg : e < 0
  · have hsign : readSign ('-' :: (writeNat e.natAbs ++ rest)) = (true, writeNat e.natAbs ++ rest) := rfl
    simp only [hneg, if_true, List.cons_append, List.nil_append, readExponent, hsign, hdigits, hvalue]
    simp only [decide_true, Bool.true_or, if_true, Option.some.injEq, Prod.mk.injEq, and_true]
    omega
  · -- a digit is no sign
    have hsign : readSign (writeNat e.natAbs ++ rest) = (false, writeNat e.natAbs ++ rest) := by
      obtain ⟨d, ds, hcons, hd⟩ := exists_writeNat_cons e.natAbs
      rw [hcons, List.cons_append, readSign]
      · intro tail hminus
        rw [(List.cons.inj hminus).1] at hd
        exact absurd hd (by decide)
      · intro tail hplus
        rw [(List.cons.inj hplus).1] at hd
        exact absurd hd (by decide)
    simp only [hneg, if_false, List.nil_append, readExponent, hsign, hdigits, hvalue]
    simp only [decide_true, Bool.true_or, if_true, Bool.false_eq_true, if_false, Option.some.injEq,
      Prod.mk.injEq, and_true]
    omega

lemma readUnsigned_natural (n : Nat) {rest : List Char} (hrest : Delimits rest) :
    readUnsigned false (writeNat n ++ rest) = some (.natural n, rest) := by
  have hwhole := readWhole_writeNat n fun c hc => (hrest c hc).1
  simp [readUnsigned, hwhole, readFraction_of_delimits hrest, readExponent_of_delimits hrest,
    (writeNat_digits n).1]

lemma readUnsigned_other (negative : Bool) (m : Nat) (e : Int) {rest : List Char} (hrest : Delimits rest) :
    readUnsigned negative (writeNat m ++
        'e' :: ((if e < 0 then ['-'] else []) ++ writeNat e.natAbs ++ rest)) =
      some (.other negative ⟨m, e⟩, rest) := by
  have hexponent := readExponent_write e hrest
  generalize (if e < 0 then ['-'] else []) ++ writeNat e.natAbs ++ rest = tail at hexponent ⊢
  have hwhole : readWhole (writeNat m ++ 'e' :: tail) = some (writeNat m, 'e' :: tail) := by
    refine readWhole_writeNat m fun c hc => ?_
    obtain rfl : 'e' = c := by simpa using hc
    decide
  have hfraction : readFraction ('e' :: tail) = some ([], 'e' :: tail) := rfl
  simp [readUnsigned, hwhole, hfraction, hexponent, (writeNat_digits m).1]

/-- Digits are not preceded by a sign. -/
lemma readNumber_writeNat_append (m : Nat) (tail : List Char) :
    readNumber (writeNat m ++ tail) = readUnsigned false (writeNat m ++ tail) := by
  obtain ⟨d, ds, hcons, hd⟩ := exists_writeNat_cons m
  rw [hcons, List.cons_append, readNumber]
  intro tail' hminus
  rw [(List.cons.inj hminus).1] at hd
  exact absurd hd (by decide)

lemma readNumber_writeNumber (n : Number) {rest : List Char} (hrest : Delimits rest) :
    readNumber (writeNumber n ++ rest) = some (n, rest) := by
  cases n with
  | natural n =>
    rw [writeNumber, readNumber_writeNat_append]
    exact readUnsigned_natural n hrest
  | other negative d =>
    obtain ⟨m, e⟩ := d
    have hread := readUnsigned_other negative m e hrest
    cases negative with
    | true => simpa [writeNumber, readNumber] using hread
    | false =>
      rw [← readNumber_writeNat_append] at hread
      simpa [writeNumber] using hread

/-- A number starts with a digit or a sign. -/
lemma exists_writeNumber_cons (n : Number) :
    ∃ c cs, writeNumber n = c :: cs ∧ (isDigit c = true ∨ c = '-') := by
  cases n with
  | natural n =>
    obtain ⟨d, ds, hcons, hd⟩ := exists_writeNat_cons n
    exact ⟨d, ds, hcons, Or.inl hd⟩
  | other negative d =>
    obtain ⟨m, e⟩ := d
    cases negative with
    | true => exact ⟨'-', _, rfl, Or.inr rfl⟩
    | false =>
      obtain ⟨d, ds, hcons, hd⟩ := exists_writeNat_cons m
      exact ⟨d, ds ++ 'e' :: ((if e < 0 then ['-'] else []) ++ writeNat e.natAbs),
        by simp [writeNumber, hcons], Or.inl hd⟩

/-- What starts with a digit or a sign is read as a number. -/
lemma readToken_numeric {c : Char} (hc : isDigit c = true ∨ c = '-') (cs : List Char) :
    readToken (c :: cs) = (readNumber (c :: cs)).map fun (n, rest) => (.num n, rest) := by
  unfold readToken
  split
  case h_11 => rfl
  all_goals
    rename_i heq
    exact absurd ((List.cons.inj heq).1 ▸ hc) (by decide)

lemma readToken_writeNumber (n : Number) {rest : List Char} (hrest : Delimits rest) :
    readToken (writeNumber n ++ rest) = some (.num n, rest) := by
  obtain ⟨c, cs, hcons, hc⟩ := exists_writeNumber_cons n
  have hread := readNumber_writeNumber n hrest
  rw [hcons, List.cons_append] at hread ⊢
  rw [readToken_numeric hc, hread]
  rfl

/-! ### Tokens -/

mutual

/-- The tokens of a value. -/
def tokens : Json → List Token
  | .null => [.null]
  | .bool b => [.bool b]
  | .num n => [.num n]
  | .str s => [.str s]
  | .arr [] => [.openArr, .closeArr]
  | .arr (v :: vs) => .openArr :: (tokens v ++ itemTokens vs)
  | .obj [] => [.openObj, .closeObj]
  | .obj ((k, v) :: fields) => .openObj :: .str k :: .colon :: (tokens v ++ fieldTokens fields)

/-- The tokens of the further items of an array and of its end. -/
def itemTokens : List Json → List Token
  | [] => [.closeArr]
  | v :: vs => .comma :: (tokens v ++ itemTokens vs)

/-- The tokens of the further fields of an object and of its end. -/
def fieldTokens : List (Text × Json) → List Token
  | [] => [.closeObj]
  | (k, v) :: fields => .comma :: .str k :: .colon :: (tokens v ++ fieldTokens fields)

end

/-- One token is taken from the front. -/
lemma readTokens_step {c : Char} {cs rest : List Char} {t : Token} (hb : isBlank c = false)
    (ht : readToken (c :: cs) = some (t, rest)) (done : List Token) :
    readTokens (c :: cs) done = readTokens rest (t :: done) := by
  rw [readTokens, if_neg (by simp [hb])]
  split
  · rename_i hnone
    exact absurd (ht.symm.trans hnone) (by simp)
  · rename_i t' rest' hsome
    obtain ⟨rfl, rfl⟩ : t = t' ∧ rest = rest' := by simpa using ht.symm.trans hsome
    rfl

lemma readTokens_writeText (s : Text) (rest : List Char) (done : List Token) :
    readTokens (writeText s ++ rest) done = readTokens rest (.str s :: done) := by
  cases s with
  | none => exact readTokens_step (by decide) (readToken_writeText none rest) done
  | some s => exact readTokens_step (by decide) (readToken_writeText (some s) rest) done

lemma readTokens_writeNumber (n : Number) {rest : List Char} (hrest : Delimits rest)
    (done : List Token) :
    readTokens (writeNumber n ++ rest) done = readTokens rest (.num n :: done) := by
  obtain ⟨c, cs, hcons, hc⟩ := exists_writeNumber_cons n
  have hread := readToken_writeNumber n hrest
  rw [hcons, List.cons_append] at hread ⊢
  refine readTokens_step ?_ hread done
  -- neither a digit nor a sign is blank
  simp only [isBlank, Bool.or_eq_false_iff, decide_eq_false_iff_not]
  refine ⟨⟨⟨?_, ?_⟩, ?_⟩, ?_⟩ <;> rintro rfl <;> exact absurd hc (by decide)

lemma delimits_nil : Delimits [] := by
  simp [Delimits]

lemma delimits_writeItems (vs : List Json) (rest : List Char) : Delimits (writeItems vs rest) := by
  cases vs <;> simp [writeItems, Delimits] <;> decide

lemma delimits_writeFields (fields : List (Text × Json)) (rest : List Char) :
    Delimits (writeFields fields rest) := by
  cases fields <;> simp [writeFields, Delimits] <;> decide

mutual

/-- **The text of a value is cut into its tokens.** -/
lemma readTokens_writeOnto : ∀ (v : Json) {rest : List Char} (_ : Delimits rest) (done : List Token),
    readTokens (writeOnto v rest) done = readTokens rest ((tokens v).reverse ++ done)
  | .null, rest, _, done => by
    exact readTokens_step (by decide) rfl done
  | .bool true, rest, _, done => by
    exact readTokens_step (by decide) rfl done
  | .bool false, rest, _, done => by
    exact readTokens_step (by decide) rfl done
  | .num n, rest, hrest, done => by
    rw [writeOnto, tokens]
    exact readTokens_writeNumber n hrest done
  | .str s, rest, _, done => by
    rw [writeOnto, tokens]
    exact readTokens_writeText s rest done
  | .arr [], rest, _, done => by
    rw [writeOnto, tokens, readTokens_step (t := .openArr) (by decide) rfl,
      readTokens_step (t := .closeArr) (by decide) rfl]
    rfl
  | .arr (v :: vs), rest, _, done => by
    rw [writeOnto, tokens, readTokens_step (t := .openArr) (by decide) rfl,
      readTokens_writeOnto v (delimits_writeItems vs rest), readTokens_writeItems vs rest]
    simp
  | .obj [], rest, _, done => by
    rw [writeOnto, tokens, readTokens_step (t := .openObj) (by decide) rfl,
      readTokens_step (t := .closeObj) (by decide) rfl]
    rfl
  | .obj ((k, v) :: fields), rest, _, done => by
    rw [writeOnto, tokens, readTokens_step (t := .openObj) (by decide) rfl, readTokens_writeText,
      readTokens_step (t := .colon) (by decide) rfl,
      readTokens_writeOnto v (delimits_writeFields fields rest), readTokens_writeFields fields rest]
    simp

lemma readTokens_writeItems : ∀ (vs : List Json) (rest : List Char) (done : List Token),
    readTokens (writeItems vs rest) done = readTokens rest ((itemTokens vs).reverse ++ done)
  | [], rest, done => by
    exact readTokens_step (by decide) rfl done
  | v :: vs, rest, done => by
    rw [writeItems, itemTokens, readTokens_step (t := .comma) (by decide) rfl,
      readTokens_writeOnto v (delimits_writeItems vs rest), readTokens_writeItems vs rest]
    simp

lemma readTokens_writeFields : ∀ (fields : List (Text × Json)) (rest : List Char) (done : List Token),
    readTokens (writeFields fields rest) done = readTokens rest ((fieldTokens fields).reverse ++ done)
  | [], rest, done => by
    exact readTokens_step (by decide) rfl done
  | (k, v) :: fields, rest, done => by
    rw [writeFields, fieldTokens, readTokens_step (t := .comma) (by decide) rfl, readTokens_writeText,
      readTokens_step (t := .colon) (by decide) rfl,
      readTokens_writeOnto v (delimits_writeFields fields rest), readTokens_writeFields fields rest]
    simp

end

/-! ### The machine -/

/-- Where an array may end, anything but its end is taken as at the start of an item. -/
lemma foldlM_firstItem (v : Json) (stack : List Frame) :
    (tokens v).foldlM ReadState.step (.firstItem stack) =
      (tokens v).foldlM ReadState.step (.value (.items [] :: stack)) := by
  have hhead : ∃ t ts, tokens v = t :: ts ∧ t ≠ .closeArr := by
    rcases v with _ | b | n | s | (_ | ⟨v, vs⟩) | (_ | ⟨⟨k, v⟩, fields⟩)
    all_goals
      rw [tokens]
      exact ⟨_, _, rfl, by simp⟩
  obtain ⟨t, ts, hcons, ht⟩ := hhead
  rw [hcons, List.foldlM_cons, List.foldlM_cons]
  cases t with
  | closeArr => exact absurd rfl ht
  | _ => rfl

mutual

/-- **The machine builds a value from its tokens.** -/
lemma foldlM_tokens : ∀ (v : Json) (stack : List Frame),
    (tokens v).foldlM ReadState.step (.value stack) = some (.after v stack)
  | .null, stack => rfl
  | .bool b, stack => rfl
  | .num n, stack => rfl
  | .str s, stack => rfl
  | .arr [], stack => rfl
  | .arr (v :: vs), stack => by
    have hitem := (foldlM_firstItem v stack).trans (foldlM_tokens v (.items [] :: stack))
    have hitems := foldlM_itemTokens vs v [] stack
    rw [tokens, List.foldlM_cons]
    change (tokens v ++ itemTokens vs).foldlM ReadState.step (.firstItem stack) = _
    rw [List.foldlM_append, hitem]
    exact hitems
  | .obj [], stack => rfl
  | .obj ((k, v) :: fields), stack => by
    have hfield := foldlM_tokens v (.fields [] k :: stack)
    have hfields := foldlM_fieldTokens fields k v [] stack
    rw [tokens, List.foldlM_cons]
    change (tokens v ++ fieldTokens fields).foldlM ReadState.step (.value (.fields [] k :: stack)) = _
    rw [List.foldlM_append, hfield]
    exact hfields

/-- Behind an item, the other items and the end of the array. -/
lemma foldlM_itemTokens : ∀ (vs : List Json) (v : Json) (done : List Json) (stack : List Frame),
    (itemTokens vs).foldlM ReadState.step (.after v (.items done :: stack)) =
      some (.after (.arr (done.reverse ++ v :: vs)) stack)
  | [], v, done, stack => by
    simp [itemTokens, ReadState.step]
  | w :: vs, v, done, stack => by
    have hitem := foldlM_tokens w (.items (v :: done) :: stack)
    have hitems := foldlM_itemTokens vs w (v :: done) stack
    rw [itemTokens, List.foldlM_cons]
    change (tokens w ++ itemTokens vs).foldlM ReadState.step (.value (.items (v :: done) :: stack)) = _
    rw [List.foldlM_append, hitem]
    simpa using hitems

/-- Behind a field, the other fields and the end of the object. -/
lemma foldlM_fieldTokens : ∀ (fields : List (Text × Json)) (k : Text) (v : Json)
    (done : List (Text × Json)) (stack : List Frame),
    (fieldTokens fields).foldlM ReadState.step (.after v (.fields done k :: stack)) =
      some (.after (.obj (done.reverse ++ (k, v) :: fields)) stack)
  | [], k, v, done, stack => by
    simp [fieldTokens, ReadState.step]
  | (l, w) :: fields, k, v, done, stack => by
    have hfield := foldlM_tokens w (.fields ((k, v) :: done) l :: stack)
    have hfields := foldlM_fieldTokens fields l w ((k, v) :: done) stack
    rw [fieldTokens, List.foldlM_cons]
    change (tokens w ++ fieldTokens fields).foldlM ReadState.step
      (.value (.fields ((k, v) :: done) l :: stack)) = _
    rw [List.foldlM_append, hfield]
    simpa using hfields

end

/-- **The compact text of a value is read back as that value.** -/
lemma parse?_compress (v : Json) : parse? v.compress = some v := by
  have htokens : readTokens (v.writeOnto []) [] = some (tokens v) := by
    rw [readTokens_writeOnto v delimits_nil, readTokens]
    simp
  rw [parse?, compress, String.toList_ofList, htokens, Option.bind_some, ofTokens?, foldlM_tokens]
  rfl

end Json

end CallTargets
