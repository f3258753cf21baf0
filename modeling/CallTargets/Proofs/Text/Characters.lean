import CallTargets.Text.Blank
import CallTargets.Text.Decimal
import Mathlib.Data.List.DropRight
import Mathlib.Data.List.Forall2
import Mathlib.Data.List.Induction

/-!
# White space, digits and pieces

Trimming a text takes the white space away at both ends, up to the first character that is none.  So what trimming does is
said for texts in which that character stands out: `blanks ++ c :: cs`.

* `blank_or_append_cons`: every text is blank or of that form.
* `trimChars_append_cons`: what is left of it.
* `ofDigits_eq_zero_iff`: digits denote zero exactly if all of them are zeros.
* `mapM_eq_some_iff`: reading a text piece by piece.
-/

namespace CallTargets

variable {p blanks cs : List Char} {c : Char}

/-! ### White space -/

/-- Nothing is dropped from the end beyond an element that stays. -/
lemma rdropWhile_append_cons {α : Type} {q : α → Bool} {a : α} (ha : q a = false) (xs ys : List α) :
    (xs ++ a :: ys).rdropWhile q = xs ++ a :: ys.rdropWhile q := by
  rw [List.rdropWhile, List.rdropWhile, List.reverse_append, List.reverse_cons, List.append_assoc,
    List.dropWhile_append]
  split <;> simp_all

lemma trimChars_of_blank (hp : ∀ b ∈ p, isBlankChar b = true) : trimChars p = [] := by
  rw [trimChars, List.dropWhile_eq_nil_iff.2 hp]
  rfl

lemma trimChars_append_cons (hblanks : ∀ b ∈ blanks, isBlankChar b = true) (hc : isBlankChar c = false)
    (cs : List Char) : trimChars (blanks ++ c :: cs) = c :: cs.rdropWhile isBlankChar := by
  rw [trimChars, List.dropWhile_append_of_pos hblanks, List.dropWhile_cons_of_neg (by simp [hc])]
  exact rdropWhile_append_cons hc [] cs

/-- A text is blank, or has a first character that is not. -/
lemma blank_or_append_cons (p : List Char) :
    (∀ b ∈ p, isBlankChar b = true) ∨ ∃ blanks c cs, (∀ b ∈ blanks, isBlankChar b = true) ∧
      isBlankChar c = false ∧ p = blanks ++ c :: cs := by
  cases hdrop : p.dropWhile isBlankChar with
  | nil => exact .inl (List.dropWhile_eq_nil_iff.1 hdrop)
  | cons c cs =>
    have hc := List.head_dropWhile_not isBlankChar (l := p) (by simp [hdrop])
    simp only [hdrop, List.head_cons] at hc
    refine .inr ⟨p.takeWhile isBlankChar, c, cs, fun b hb => List.mem_takeWhile_imp hb, hc, ?_⟩
    rw [← hdrop, List.takeWhile_append_dropWhile]

lemma trimChars_trimChars (p : List Char) : trimChars (trimChars p) = trimChars p := by
  rcases blank_or_append_cons p with hp | ⟨blanks, c, cs, hblanks, hc, rfl⟩
  · rw [trimChars_of_blank hp]
    rfl
  · have htwice := trimChars_append_cons (List.forall_mem_nil _) hc (cs.rdropWhile isBlankChar)
    rw [List.rdropWhile_idempotent] at htwice
    rw [trimChars_append_cons hblanks hc]
    exact htwice

lemma trimText_trimText (text : String) : trimText (trimText text) = trimText text := by
  rw [trimText, trimText, String.toList_ofList, trimChars_trimChars]

lemma toLower_eq_of_blank (hc : isBlankChar c = true) : c.toLower = c := by
  have hcapital : ¬ (c.val ≥ 'A'.val ∧ c.val ≤ 'Z'.val) := by
    rintro ⟨hlow, hhigh⟩
    have hlow' : 65 ≤ c.toNat := hlow
    have hhigh' : c.toNat ≤ 90 := hhigh
    simp only [isBlankChar, Bool.or_eq_true, Bool.and_eq_true, decide_eq_true_eq, beq_iff_eq] at hc
    omega
  exact dif_neg hcapital

/-! ### Digits -/

/-- A decimal digit is the character of its value. -/
lemma exists_digitChar (hc : isDigitOf 10 c = true) : ∃ v < 10, digitValue? c = some v ∧ c = v.digitChar := by
  have hchar : ∀ v < 10, Char.ofNat (v + 48) = v.digitChar := by decide
  rw [isDigitOf] at hc
  split at hc
  · rename_i v hv
    have hlt : v < 10 := by simpa using hc
    refine ⟨v, hlt, hv, ?_⟩
    rw [digitValue?] at hv
    split_ifs at hv with hdecimal hsmall hcapital
    · have hlow : 48 ≤ c.toNat := Char.le_def.1 hdecimal.1
      have hcode : c.toNat - 48 = v := Option.some.inj hv
      rw [← hchar v hlt, show v + 48 = c.toNat by omega, Char.ofNat_toNat]
    -- the letters among the digits of other bases have the value ten or more
    · have hten : c.toNat - 'a'.toNat + 10 = v := Option.some.inj hv
      omega
    · have hten : c.toNat - 'A'.toNat + 10 = v := Option.some.inj hv
      omega
  · exact absurd hc (by simp)

/-- Digits denote zero exactly if all of them are zeros. -/
lemma ofDigits_eq_zero_iff (hall : ∀ c ∈ cs, isDigitOf 10 c = true) :
    ofDigits 10 cs = 0 ↔ ∀ c ∈ cs, c = '0' := by
  have hzero : ∀ v < 10, v.digitChar = '0' ↔ v = 0 := by decide
  induction cs using List.reverseRecOn with
  | nil => simp [ofDigits]
  | append_singleton cs c ih =>
    obtain ⟨v, hlt, hvalue, rfl⟩ := exists_digitChar (hall c (by simp))
    have hfront : ofDigits 10 cs = 0 ↔ ∀ c ∈ cs, c = '0' := ih fun c hc => hall c (by simp [hc])
    rw [ofDigits_append_singleton, hvalue, Option.getD_some, List.forall_mem_append, ← hfront,
      List.forall_mem_singleton, hzero v hlt]
    omega

/-! ### Pieces -/

/-- Reading one piece after the other succeeds exactly if reading each of them does. -/
lemma mapM_eq_some_iff {α β : Type} {f : α → Option β} {as : List α} {bs : List β} :
    as.mapM f = some bs ↔ List.Forall₂ (fun a b => f a = some b) as bs := by
  induction as generalizing bs with
  | nil => simp [eq_comm]
  | cons a as ih =>
    rw [List.mapM_cons, List.forall₂_cons_left_iff]
    simp only [Option.bind_eq_bind, Option.bind_eq_some_iff, Option.pure_def, ih, Option.some.injEq]
    constructor
    · rintro ⟨b, hb, bs', hbs, rfl⟩
      exact ⟨b, bs', hb, hbs, rfl⟩
    · rintro ⟨b, bs', hb, hbs, rfl⟩
      exact ⟨b, hb, bs', hbs, rfl⟩

end CallTargets
