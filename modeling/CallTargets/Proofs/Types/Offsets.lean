import CallTargets.Proofs.Text.ByteOrder
import CallTargets.Proofs.Types.Grammar

/-!
# Byte offsets in descriptors

A descriptor may be read by the bytes of its text: the brackets are counted and the semicolon is found byte by byte, and
the text is cut at the offsets where they stand.  Class names may hold any characters, with one byte or with more.  Still
no cut falls inside a character, because a byte below 128 is a character of its own wherever it occurs.

* `Tells.takeWhile_encoded`: looking for such a byte is looking for its character.
* `fieldCuts_isValid`: in any text, the offsets at which reading a field descriptor cuts it fall between characters.
* `drop_last_fieldCuts`: what reading leaves over starts at the last of them.
-/

namespace CallTargets

/-! ### Characters with one byte -/

/-- The bytes of some characters. -/
def encoded (cs : List Char) : List UInt8 := cs.flatMap String.utf8EncodeChar

lemma encoded_cons (c : Char) (cs : List Char) : encoded (c :: cs) = String.utf8EncodeChar c ++ encoded cs :=
  List.flatMap_cons

lemma encoded_append (front rest : List Char) : encoded (front ++ rest) = encoded front ++ encoded rest :=
  List.flatMap_append

/-- A byte below 128 does not occur in the encoding of any other character. -/
lemma ne_of_mem_utf8EncodeChar {a c : Char} {b : UInt8} (ha : a.toNat < 128) (hne : c ≠ a)
    (hb : b ∈ String.utf8EncodeChar c) : b ≠ UInt8.ofNat a.toNat := by
  have hval : c.val.toNat ≠ a.toNat := fun heq => hne (Char.ext (UInt32.toNat_inj.1 heq))
  rintro rfl
  revert hb hval
  unfold String.utf8EncodeChar
  generalize a.toNat = v at ha
  generalize c.val.toNat = w
  intro hval hb
  have hbyte : ∀ n, n < 256 → UInt8.ofNat v = UInt8.ofNat n → v = n := by
    intro n hn heq
    have hnat := congrArg UInt8.toNat heq
    rwa [UInt8.toNat_ofNat', UInt8.toNat_ofNat', Nat.mod_eq_of_lt hn, Nat.mod_eq_of_lt (by omega)] at hnat
  -- the bytes of all longer encodings are 128 or more
  dsimp only at hb
  split_ifs at hb <;> simp only [List.mem_cons, List.not_mem_nil, or_false] at hb
  · have := hbyte _ (by omega) hb
    omega
  · rcases hb with hb | hb <;> have := hbyte _ (by omega) hb <;> omega
  · rcases hb with hb | hb | hb <;> have := hbyte _ (by omega) hb <;> omega
  · rcases hb with hb | hb | hb | hb <;> have := hbyte _ (by omega) hb <;> omega

/-- The characters for which `p` holds are told by their bytes. -/
def Tells (q : UInt8 → Bool) (p : Char → Bool) : Prop :=
  ∀ c, ∀ b ∈ String.utf8EncodeChar c, q b = p c

lemma Tells.takeWhile_encoded {q : UInt8 → Bool} {p : Char → Bool} (htells : Tells q p) (cs : List Char) :
    (encoded cs).takeWhile q = encoded (cs.takeWhile p) := by
  induction cs with
  | nil => rfl
  | cons c cs ih =>
    rw [encoded_cons, List.takeWhile_cons]
    cases hp : p c with
    | true =>
      rw [List.takeWhile_append_of_pos fun b hb => (htells c b hb).trans hp, ih, if_pos rfl, encoded_cons]
    | false =>
      -- the first byte of the character stops it already
      obtain ⟨b, bs, hbs⟩ := List.exists_cons_of_ne_nil (String.utf8EncodeChar_ne_nil (c := c))
      have hb : q b = false := (htells c b (by simp [hbs])).trans hp
      rw [hbs, List.cons_append, List.takeWhile_cons_of_neg (by simp [hb]), if_neg (by simp)]
      rfl

lemma utf8EncodeChar_of_lt {a : Char} (ha : a.toNat < 128) : String.utf8EncodeChar a = [UInt8.ofNat a.toNat] := by
  have hle : a.val.toNat ≤ 127 := Nat.le_of_lt_succ ha
  unfold String.utf8EncodeChar
  exact if_pos hle

lemma tells_beq {a : Char} (ha : a.toNat < 128) : Tells (· == UInt8.ofNat a.toNat) (· == a) := by
  intro c b hb
  by_cases hc : c = a
  · subst hc
    rw [utf8EncodeChar_of_lt ha, List.mem_singleton] at hb
    simp [hb]
  · simp [hc, ne_of_mem_utf8EncodeChar ha hc hb]

lemma tells_bne {a : Char} (ha : a.toNat < 128) : Tells (· != UInt8.ofNat a.toNat) (· != a) := by
  intro c b hb
  simp only [bne, tells_beq ha c b hb]

/-- The first byte of a text tells whether the text starts with a character that has one byte. -/
lemma head?_encoded_eq_some_iff {a : Char} (ha : a.toNat < 128) (text : List Char) :
    (encoded text).head? = some (UInt8.ofNat a.toNat) ↔ text.head? = some a := by
  cases text with
  | nil => simp [encoded]
  | cons c cs =>
    obtain ⟨b, bs, hbs⟩ := List.exists_cons_of_ne_nil (String.utf8EncodeChar_ne_nil (c := c))
    have htell : (b == UInt8.ofNat a.toNat) = (c == a) := tells_beq ha c b (by simp [hbs])
    rw [encoded_cons, hbs, List.cons_append, List.head?_cons, List.head?_cons, Option.some.injEq, Option.some.injEq,
      ← beq_iff_eq, htell, beq_iff_eq]

/-! ### Boundaries -/

/-- The offset `k` is the end of some characters at the front of a text. -/
def Boundary (text : List Char) (k : Nat) : Prop := ∃ front rest, text = front ++ rest ∧ (encoded front).length = k

lemma Boundary.add {rest : List Char} {k : Nat} (hk : Boundary rest k) (front : List Char) :
    Boundary (front ++ rest) ((encoded front).length + k) := by
  obtain ⟨more, rest, rfl, rfl⟩ := hk
  exact ⟨front ++ more, rest, (List.append_assoc ..).symm, by rw [encoded_append, List.length_append]⟩

lemma Boundary.isValid {text : List Char} {k : Nat} (hk : Boundary text k) :
    (String.Pos.Raw.mk k).IsValid (String.ofList text) := by
  obtain ⟨front, rest, rfl, rfl⟩ := hk
  refine String.Pos.Raw.isValid_iff_exists_append.2 ⟨String.ofList front, String.ofList rest, String.ofList_append, ?_⟩
  have hbytes : utf8Bytes (String.ofList front) = encoded front := by
    rw [utf8Bytes_eq_flatMap, String.toList_ofList, encoded]
  rw [← hbytes]
  rfl

namespace Descriptor

variable {s text rest : List Char} {t : Ty}

/-! ### Cuts -/

/-- The number of brackets at the front, counted by bytes. -/
def bracketBytes (bytes : List UInt8) : Nat := (bytes.takeWhile (· == UInt8.ofNat '['.toNat)).length

/-- The offset of the first semicolon. -/
def semicolonOffset (bytes : List UInt8) : Nat := (bytes.takeWhile (· != UInt8.ofNat ';'.toNat)).length

/-- The offsets at which a component is cut: behind the letter of a primitive type, or behind the `L` of a class and before
and behind its semicolon.  A class without a semicolon or without a name is not cut. -/
def componentCuts (bytes : List UInt8) : List Nat :=
  if bytes.head? = some (UInt8.ofNat 'L'.toNat) then
    if 1 < semicolonOffset bytes ∧ semicolonOffset bytes < bytes.length then
      [1, semicolonOffset bytes, semicolonOffset bytes + 1]
    else []
  else if ∃ p ∈ Primitive.all, bytes.head? = some (UInt8.ofNat p.letter.toNat) then [1] else []

/-- The offsets at which a field descriptor is cut: behind the brackets, unless there are too many, and where the component
is cut that starts there. -/
def fieldCuts (bytes : List UInt8) : List Nat :=
  if bracketBytes bytes ≤ maxDimensions then
    bracketBytes bytes :: (componentCuts (bytes.drop (bracketBytes bytes))).map (bracketBytes bytes + ·)
  else []

/-- Brackets are counted as characters, and what follows them are the bytes of the characters that follow. -/
lemma bracketBytes_encoded (text : List Char) :
    bracketBytes (encoded text) = (encoded (text.takeWhile (· == '['))).length ∧
      (encoded text).drop (bracketBytes (encoded text)) = encoded (text.dropWhile (· == '[')) := by
  have hcount : bracketBytes (encoded text) = (encoded (text.takeWhile (· == '['))).length := by
    rw [bracketBytes, (tells_beq (by decide)).takeWhile_encoded]
  refine ⟨hcount, ?_⟩
  have hsplit : encoded text = encoded (text.takeWhile (· == '[')) ++ encoded (text.dropWhile (· == '[')) := by
    rw [← encoded_append, List.takeWhile_append_dropWhile]
  rw [hcount, hsplit, List.drop_left]

lemma semicolonOffset_encoded (text : List Char) :
    semicolonOffset (encoded text) = (encoded (text.takeWhile (· != ';'))).length := by
  rw [semicolonOffset, (tells_bne (by decide)).takeWhile_encoded]

lemma boundary_one {a : Char} (ha : a.toNat < 128) (hhead : (encoded text).head? = some (UInt8.ofNat a.toNat)) :
    Boundary text 1 := by
  obtain ⟨rest, rfl⟩ := List.head?_eq_some_iff.1 ((head?_encoded_eq_some_iff ha text).1 hhead)
  exact ⟨[a], rest, rfl, by simp [encoded, utf8EncodeChar_of_lt ha]⟩

/-- Behind the first semicolon a text may be cut as well as before it. -/
lemma boundary_semicolon (hfound : semicolonOffset (encoded text) < (encoded text).length) :
    Boundary text (semicolonOffset (encoded text)) ∧ Boundary text (semicolonOffset (encoded text) + 1) := by
  have hsplit := (List.takeWhile_append_dropWhile (p := (· != ';')) (l := text)).symm
  rw [semicolonOffset_encoded] at hfound ⊢
  refine ⟨⟨_, _, hsplit, rfl⟩, ?_⟩
  cases hdrop : text.dropWhile (· != ';') with
  | nil =>
    -- without a semicolon the offset is the length of the text
    rw [hdrop, List.append_nil] at hsplit
    rw [← hsplit] at hfound
    exact absurd hfound (Nat.lt_irrefl _)
  | cons mark after =>
    have hmark : mark = ';' := by
      have hhead := List.head?_dropWhile_not (· != ';') text
      rw [hdrop] at hhead
      simpa using hhead
    rw [hdrop, hmark] at hsplit
    refine ⟨text.takeWhile (· != ';') ++ [';'], after, by simpa using hsplit, ?_⟩
    rw [encoded_append, List.length_append]
    rfl

lemma boundary_of_mem_componentCuts {k : Nat} (hk : k ∈ componentCuts (encoded text)) : Boundary text k := by
  rw [componentCuts] at hk
  split_ifs at hk with hclass hname hletter
  · obtain ⟨hbefore, hbehind⟩ := boundary_semicolon hname.2
    simp only [List.mem_cons, List.not_mem_nil, or_false] at hk
    rcases hk with rfl | rfl | rfl
    · exact boundary_one (by decide) hclass
    · exact hbefore
    · exact hbehind
  · exact absurd hk List.not_mem_nil
  · obtain ⟨p, -, hp⟩ := hletter
    rw [List.mem_singleton.1 hk]
    exact boundary_one (by cases p <;> decide) hp
  · exact absurd hk List.not_mem_nil

/-- **No cut falls inside a character**, whether the text is a descriptor or not.  The parts of a method descriptor are read
as field descriptors one after the other, each in what the one before left over, so this is said of them too. -/
theorem fieldCuts_isValid (text : List Char) :
    ∀ k ∈ fieldCuts (encoded text), (String.Pos.Raw.mk k).IsValid (String.ofList text) := by
  obtain ⟨hcount, hdrop⟩ := bracketBytes_encoded text
  intro k hk
  rw [fieldCuts, hdrop, hcount] at hk
  split_ifs at hk
  · have hadd : ∀ j, Boundary (text.dropWhile (· == '[')) j →
        Boundary text ((encoded (text.takeWhile (· == '['))).length + j) := by
      intro j hj
      simpa only [List.takeWhile_append_dropWhile] using hj.add (text.takeWhile (· == '['))
    rcases List.mem_cons.1 hk with rfl | hk
    · exact (hadd 0 ⟨[], _, rfl, rfl⟩).isValid
    · obtain ⟨j, hj, rfl⟩ := List.mem_map.1 hk
      exact (hadd j (boundary_of_mem_componentCuts hj)).isValid
  · exact absurd hk List.not_mem_nil

/-- A component is cut for the last time where it ends. -/
lemma getLast?_componentCuts (hs : ComponentText s t) (rest : List Char) :
    (componentCuts (encoded (s ++ rest))).getLast? = some (encoded s).length := by
  cases hs with
  | @letter c p hp =>
    obtain rfl := mem_letters_iff.1 hp
    cases p <;> rfl
  | @className name hne hsemi =>
    have htext : 'L' :: name ++ [';'] ++ rest = ('L' :: name) ++ ';' :: rest := by simp
    have hoffset : semicolonOffset (encoded ('L' :: name ++ [';'] ++ rest)) = (encoded ('L' :: name)).length := by
      rw [semicolonOffset_encoded, htext, (span_semicolon (by simpa using hsemi) rest).1]
    have hname : 1 < (encoded ('L' :: name)).length := by
      obtain ⟨c, cs, rfl⟩ := List.exists_cons_of_ne_nil hne
      have hpos := List.length_pos_of_ne_nil (String.utf8EncodeChar_ne_nil (c := c))
      rw [encoded_cons, encoded_cons, utf8EncodeChar_of_lt (by decide), List.length_append, List.length_append,
        List.length_singleton]
      omega
    have hfound : (encoded ('L' :: name)).length < (encoded ('L' :: name ++ [';'] ++ rest)).length := by
      rw [htext, encoded_append, encoded_cons ';', utf8EncodeChar_of_lt (by decide)]
      simp
    have hclass : (encoded ('L' :: name ++ [';'] ++ rest)).head? = some (UInt8.ofNat 'L'.toNat) := rfl
    rw [componentCuts, if_pos hclass, hoffset, if_pos ⟨hname, hfound⟩, encoded_append, List.length_append]
    rfl

/-- Reading leaves over what stands behind the last cut. -/
theorem drop_last_fieldCuts (hread : readField text = .ok (t, rest)) :
    ∃ k, (fieldCuts (encoded text)).getLast? = some k ∧ (encoded text).drop k = encoded rest := by
  obtain ⟨field, hfield, rfl⟩ := readField_eq_ok_iff.1 hread
  cases hfield with
  | @brackets s u k hk hs =>
    obtain ⟨hcount, hdrop⟩ := bracketBytes_encoded (List.replicate k '[' ++ s ++ rest)
    obtain ⟨htake, hcomponent⟩ := span_brackets k hs rest
    have hdims : (encoded (List.replicate k '[')).length = k := by
      have hsize : '['.utf8Size = 1 := rfl
      simp [encoded, hsize]
    have hle : k ≤ maxDimensions := hk
    -- a bracket has one byte, so the brackets take up as many as there are dimensions
    rw [takeWhile_bracket, htake, hdims] at hcount
    rw [hcount, hcomponent] at hdrop
    refine ⟨k + (encoded s).length, ?_, ?_⟩
    · rw [fieldCuts, hcount, hdrop, if_pos hle, List.getLast?_cons, List.getLast?_map, getLast?_componentCuts hs]
      rfl
    · rw [encoded_append, List.drop_left']
      rw [encoded_append, List.length_append, hdims]

end Descriptor

end CallTargets
