import CallTargets.Proofs.Json.ReadBack

/-!
# How deep a JSON text nests

The depth of a text is the greatest number of brackets that are open at once, where brackets in string literals do not
count.  It is found by going through the characters, without reading the text as a value.

The depth of a value is the number of arrays and objects around its innermost part.  `textDepth_compress` says that the
compact text of a value is as deep as the value is.
-/

namespace CallTargets

namespace Json

/-! ### Values -/

mutual

/-- The depth of a value: an array or object is one level deeper than what it holds. -/
def depth : Json → Nat
  | .null | .bool _ | .num _ | .str _ => 0
  | .arr items => depthItems items + 1
  | .obj fields => depthFields fields + 1

/-- The depth of the deepest of some values. -/
def depthItems : List Json → Nat
  | [] => 0
  | v :: vs => max v.depth (depthItems vs)

/-- The depth of the deepest of some fields. -/
def depthFields : List (Text × Json) → Nat
  | [] => 0
  | (_, v) :: fields => max v.depth (depthFields fields)

end

/-! ### Texts -/

/-- The greatest number of brackets that are open at once in a text, if `level` are open before it.  In a string literal,
where `quoted` is true, only quotes and backslashes matter. -/
def deepest : List Char → (quoted : Bool) → (level : Nat) → Nat
  | [], _, level => level
  | '\\' :: _ :: cs, true, level => deepest cs true level
  | c :: cs, quoted, level =>
    if c = '"' then deepest cs (!quoted) level
    else if quoted then deepest cs true level
    else if c = '[' || c = '{' then deepest cs false (level + 1)
    else if c = ']' || c = '}' then max level (deepest cs false (level - 1))
    else deepest cs false level

/-- How deep a text nests. -/
def textDepth (text : String) : Nat := deepest text.toList false 0

lemma level_le_deepest (cs : List Char) (quoted : Bool) (level : Nat) : level ≤ deepest cs quoted level := by
  fun_induction deepest cs quoted level with
  | case1 => exact Nat.le_refl _
  | case2 c cs level ih => exact ih
  | case3 quoted level cs _ ih => exact ih
  | case4 level c cs _ _ ih => exact ih
  | case5 quoted level c cs _ _ _ _ ih => omega
  | case6 quoted level c cs _ _ _ _ _ => exact Nat.le_max_left _ _
  | case7 quoted level c cs _ _ _ _ _ ih => exact ih

/-- A character that may stand in a string as it is leaves the string open. -/
lemma deepest_plain {c : Char} (hc : isPlain c = true) (cs : List Char) (level : Nat) :
    deepest (c :: cs) true level = deepest cs true level := by
  have hquote : c ≠ '"' := by
    rintro rfl
    exact absurd hc (by decide)
  have hslash : c ≠ '\\' := by
    rintro rfl
    exact absurd hc (by decide)
  rw [deepest, if_neg hquote, if_pos rfl]
  intro e tail _ hcs
  exact absurd hcs hslash

/-- A character that is neither a bracket nor a quote changes nothing outside of strings. -/
lemma deepest_neutral {c : Char} (hc : c ∉ ['"', '[', ']', '{', '}']) (cs : List Char) (level : Nat) :
    deepest (c :: cs) false level = deepest cs false level := by
  simp only [List.mem_cons, List.not_mem_nil, or_false, not_or] at hc
  obtain ⟨hquote, hopen, hclose, hopen', hclose'⟩ := hc
  simp [deepest, hquote, hopen, hclose, hopen', hclose']

lemma deepest_neutral_append {cs : List Char} (hcs : ∀ c ∈ cs, c ∉ ['"', '[', ']', '{', '}'])
    (rest : List Char) (level : Nat) :
    deepest (cs ++ rest) false level = deepest rest false level := by
  induction cs with
  | nil => rfl
  | cons c cs ih =>
    obtain ⟨hc, hcs⟩ := List.forall_mem_cons.1 hcs
    rw [List.cons_append, deepest_neutral hc, ih hcs]

/-! ### What was written -/

lemma isPlain_hexDigit : ∀ n < 32,
    isPlain (hexDigit (n / 16)) = true ∧ isPlain (hexDigit (n % 16)) = true := by
  decide

lemma deepest_writeChar (c : Char) (rest : List Char) (level : Nat) :
    deepest (writeChar c ++ rest) true level = deepest rest true level := by
  rcases writeChar_cases c with ⟨e, -, hwrite⟩ | ⟨hn, hwrite⟩ | ⟨hplain, hwrite⟩
  · rw [hwrite]
    rfl
  · obtain ⟨hhigh, hlow⟩ := isPlain_hexDigit c.toNat hn
    rw [hwrite]
    change deepest ('0' :: '0' :: hexDigit (c.toNat / 16) :: hexDigit (c.toNat % 16) :: rest) true level = _
    rw [deepest_plain rfl, deepest_plain rfl, deepest_plain hhigh, deepest_plain hlow]
  · rw [hwrite]
    exact deepest_plain hplain rest level

/-- String literals do not nest. -/
lemma deepest_writeText (s : Text) (rest : List Char) (level : Nat) :
    deepest (writeText s ++ rest) false level = deepest rest false level := by
  cases s with
  | none => rfl
  | some s =>
    have hchars : ∀ cs : List Char,
        deepest (cs.flatMap writeChar ++ '"' :: rest) true level = deepest rest false level := by
      intro cs
      induction cs with
      | nil => rfl
      | cons c cs ih => rw [List.flatMap_cons, List.append_assoc, deepest_writeChar, ih]
    have hwrite : writeText (some s) ++ rest = '"' :: (s.toList.flatMap writeChar ++ '"' :: rest) := by
      simp [writeText]
    rw [hwrite]
    exact hchars s.toList

lemma writeNat_neutral (n : Nat) : ∀ c ∈ writeNat n, c ∉ ['"', '[', ']', '{', '}'] := by
  intro c hc hmem
  have hdigit := (writeNat_digits n).2.1 c hc
  have hnone : (['"', '[', ']', '{', '}'].all fun d => !isDigit d) = true := by decide
  have hc := List.all_eq_true.1 hnone c hmem
  rw [hdigit] at hc
  cases hc

lemma deepest_writeNumber (n : Number) (rest : List Char) (level : Nat) :
    deepest (writeNumber n ++ rest) false level = deepest rest false level := by
  refine deepest_neutral_append ?_ rest level
  cases n with
  | natural n => exact writeNat_neutral n
  | other negative d =>
    obtain ⟨m, e⟩ := d
    intro c hc
    simp only [writeNumber, List.mem_append, List.mem_cons] at hc
    rcases hc with (hc | hc) | rfl | hc | hc
    · cases negative with
      | true => rw [List.mem_singleton.1 hc]; decide
      | false => exact absurd hc List.not_mem_nil
    · exact writeNat_neutral m c hc
    · decide
    · split at hc
      · rw [List.mem_singleton.1 hc]; decide
      · exact absurd hc List.not_mem_nil
    · exact writeNat_neutral e.natAbs c hc

/-- A value without brackets adds nothing to the depth. -/
lemma deepest_eq_max (rest : List Char) (level : Nat) :
    deepest rest false level = max (level + 0) (deepest rest false level) :=
  (Nat.max_eq_right (level_le_deepest rest false level)).symm

mutual

/-- Within a text, the text of a value is as deep as the value. -/
lemma deepest_writeOnto : ∀ (v : Json) (rest : List Char) (level : Nat),
    deepest (writeOnto v rest) false level = max (level + v.depth) (deepest rest false level)
  | .null, rest, level => deepest_eq_max rest level
  | .bool true, rest, level => deepest_eq_max rest level
  | .bool false, rest, level => deepest_eq_max rest level
  | .num n, rest, level => by
    rw [writeOnto, deepest_writeNumber, depth]
    exact deepest_eq_max rest level
  | .str s, rest, level => by
    rw [writeOnto, deepest_writeText, depth]
    exact deepest_eq_max rest level
  | .arr [], rest, level => by
    rw [writeOnto, depth, depthItems]
    rfl
  | .arr (v :: vs), rest, level => by
    rw [writeOnto, depth, depthItems]
    change deepest (writeOnto v (writeItems vs rest)) false (level + 1) = _
    rw [deepest_writeOnto v, deepest_writeItems vs]
    omega
  | .obj [], rest, level => by
    rw [writeOnto, depth, depthFields]
    rfl
  | .obj ((k, v) :: fields), rest, level => by
    rw [writeOnto, depth, depthFields]
    change deepest (writeText k ++ ':' :: writeOnto v (writeFields fields rest)) false (level + 1) = _
    rw [deepest_writeText]
    change deepest (writeOnto v (writeFields fields rest)) false (level + 1) = _
    rw [deepest_writeOnto v, deepest_writeFields fields]
    omega

/-- The further items of an array are one level deeper than what follows the array. -/
lemma deepest_writeItems : ∀ (vs : List Json) (rest : List Char) (level : Nat),
    deepest (writeItems vs rest) false (level + 1) =
      max (level + 1 + depthItems vs) (deepest rest false level)
  | [], rest, level => rfl
  | v :: vs, rest, level => by
    rw [writeItems, depthItems]
    change deepest (writeOnto v (writeItems vs rest)) false (level + 1) = _
    rw [deepest_writeOnto v, deepest_writeItems vs]
    omega

/-- The further fields of an object, likewise. -/
lemma deepest_writeFields : ∀ (fields : List (Text × Json)) (rest : List Char) (level : Nat),
    deepest (writeFields fields rest) false (level + 1) =
      max (level + 1 + depthFields fields) (deepest rest false level)
  | [], rest, level => rfl
  | (k, v) :: fields, rest, level => by
    rw [writeFields, depthFields]
    change deepest (writeText k ++ ':' :: writeOnto v (writeFields fields rest)) false (level + 1) = _
    rw [deepest_writeText]
    change deepest (writeOnto v (writeFields fields rest)) false (level + 1) = _
    rw [deepest_writeOnto v, deepest_writeFields fields]
    omega

end

/-- **The compact text of a value is as deep as the value.** -/
lemma textDepth_compress (v : Json) : textDepth v.compress = v.depth := by
  rw [textDepth, compress, String.toList_ofList, deepest_writeOnto, deepest]
  omega

end Json

end CallTargets
