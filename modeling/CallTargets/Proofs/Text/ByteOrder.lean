import Mathlib.Data.String.Basic

/-!
# The byte order of texts

Names are listed in the order of their UTF-8 bytes.  That is the order in which texts are compared anyway, character by
character: the encoding of the smaller of two characters is smaller already before either encoding ends.
-/

namespace CallTargets

/-- The UTF-8 bytes of a text. -/
def utf8Bytes (s : String) : List UInt8 := s.toByteArray.data.toList

/-- The bytes of a text are those of its characters, one character after the other. -/
lemma utf8Bytes_eq_flatMap (s : String) : utf8Bytes s = s.toList.flatMap String.utf8EncodeChar := by
  rw [utf8Bytes, ← String.utf8Encode_toList, List.utf8Encode, List.toList_data_toByteArray]

/-- Two byte sequences whose first bytes are given as numbers, in order. -/
private lemma ofNat_cons_lt {m n : Nat} {xs ys : List UInt8} (hn : n < 256) (hmn : m ≤ n)
    (htail : m = n → xs < ys) : UInt8.ofNat m :: xs < UInt8.ofNat n :: ys := by
  rw [List.cons_lt_cons_iff]
  rcases Nat.lt_or_eq_of_le hmn with hlt | rfl
  · left
    rw [UInt8.lt_iff_toNat_lt, UInt8.toNat_ofNat', UInt8.toNat_ofNat', Nat.mod_eq_of_lt hn,
      Nat.mod_eq_of_lt (hlt.trans hn)]
    exact hlt
  · exact Or.inr ⟨rfl, htail rfl⟩

/-- Of two characters the smaller one has the smaller bytes, whatever follows. -/
lemma utf8EncodeChar_append_lt {c d : Char} (hcd : c < d) (xs ys : List UInt8) :
    String.utf8EncodeChar c ++ xs < String.utf8EncodeChar d ++ ys := by
  have hlt : c.val.toNat < d.val.toNat := hcd
  have hd : d.val.toNat < 1114112 := by
    rcases d.valid with hv | hv
    · exact hv.trans (by decide)
    · exact hv.2
  revert hlt hd
  unfold String.utf8EncodeChar
  generalize c.val.toNat = v
  generalize d.val.toNat = w
  intro hlt hd
  -- the first byte tells how many bytes follow, and more bytes mean a greater first byte
  dsimp only
  split_ifs <;> simp only [List.cons_append, List.nil_append]
  · exact ofNat_cons_lt (by omega) (by omega) fun _ => by omega
  · exact ofNat_cons_lt (by omega) (by omega) fun _ => by omega
  · exact ofNat_cons_lt (by omega) (by omega) fun _ => by omega
  · exact ofNat_cons_lt (by omega) (by omega) fun _ => by omega
  · omega
  · exact ofNat_cons_lt (by omega) (by omega) fun _ =>
      ofNat_cons_lt (by omega) (by omega) fun _ => by omega
  · exact ofNat_cons_lt (by omega) (by omega) fun _ => by omega
  · exact ofNat_cons_lt (by omega) (by omega) fun _ => by omega
  · omega
  · omega
  · exact ofNat_cons_lt (by omega) (by omega) fun _ =>
      ofNat_cons_lt (by omega) (by omega) fun _ =>
        ofNat_cons_lt (by omega) (by omega) fun _ => by omega
  · exact ofNat_cons_lt (by omega) (by omega) fun _ => by omega
  · omega
  · omega
  · omega
  · exact ofNat_cons_lt (by omega) (by omega) fun _ =>
      ofNat_cons_lt (by omega) (by omega) fun _ =>
        ofNat_cons_lt (by omega) (by omega) fun _ =>
          ofNat_cons_lt (by omega) (by omega) fun _ => by omega

lemma flatMap_utf8EncodeChar_lt {cs ds : List Char} (hlt : cs < ds) :
    cs.flatMap String.utf8EncodeChar < ds.flatMap String.utf8EncodeChar := by
  induction cs generalizing ds with
  | nil =>
    cases ds with
    | nil => exact absurd hlt (List.not_lt_nil _)
    | cons d ds =>
      rw [List.flatMap_nil, List.flatMap_cons]
      obtain ⟨b, bs, hb⟩ := List.exists_cons_of_ne_nil (String.utf8EncodeChar_ne_nil (c := d))
      rw [hb, List.cons_append]
      exact List.nil_lt_cons _ _
  | cons c cs ih =>
    cases ds with
    | nil => exact absurd hlt (List.not_lt_nil _)
    | cons d ds =>
      rw [List.flatMap_cons, List.flatMap_cons]
      rcases List.cons_lt_cons_iff.1 hlt with hcd | ⟨rfl, hcs⟩
      · exact utf8EncodeChar_append_lt hcd _ _
      · exact List.append_left_lt (ih hcs)

/-- **Texts are ordered as their bytes are.** -/
lemma lt_iff_utf8Bytes_lt {s t : String} : s < t ↔ utf8Bytes s < utf8Bytes t := by
  have hmono : ∀ {s t : String}, s < t → utf8Bytes s < utf8Bytes t := by
    intro s t hst
    rw [utf8Bytes_eq_flatMap, utf8Bytes_eq_flatMap]
    exact flatMap_utf8EncodeChar_lt (String.lt_iff_toList_lt.1 hst)
  refine ⟨hmono, fun hst => ?_⟩
  rcases Std.lt_trichotomy s t with hlt | rfl | hgt
  · exact hlt
  · exact absurd hst (List.lt_irrefl _)
  · exact absurd (hmono hgt) (List.lt_asymm hst)

end CallTargets
