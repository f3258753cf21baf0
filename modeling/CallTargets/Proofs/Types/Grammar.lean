import CallTargets.Types.Descriptor
import Mathlib.Data.List.Basic
import Mathlib.Tactic.Lemma

/-!
# The grammar of descriptors

The texts that are descriptors, said without reading them: `FieldText s t` derives the text `s` of a field descriptor
together with the type `t` that it stands for, and `MethodText` does so for methods.

Descriptors stand one after the other in a list of parameters, with nothing in between.  So what is shown about reading
speaks of a text that goes on: `readField_eq_ok_iff` says that a type is read off the front of a text exactly if the
text starts with a derivation of it, and what is left over is the rest.  There is only one way to split a text like
that, because the end of a descriptor shows in the descriptor itself.

* `parse_iff_grammar`: the texts that are read as a whole are the derived ones, with the types that are derived with
  them.  All others are refused, and the error echoes the end of the text from some character on, perhaps cut short.
-/

namespace CallTargets

namespace Descriptor

variable {s text rest whole name : List Char} {t : Ty} {ts : List Ty} {e : DescriptorError}

/-! ### Derivations -/

/-- The letters that stand for the primitive types. -/
def letters : List (Char × Primitive) :=
  [('B', .byte), ('C', .char), ('D', .double), ('F', .float), ('I', .int), ('J', .long), ('S', .short),
    ('Z', .boolean)]

/-- The descriptor of a primitive type or a class. -/
inductive ComponentText : List Char → Ty → Prop
  | letter {c : Char} {p : Primitive} : (c, p) ∈ letters → ComponentText [c] (.prim p)
  | className {name : List Char} : name ≠ [] → ';' ∉ name →
      ComponentText ('L' :: name ++ [';'])
        (.object (String.ofList (name.map fun c => if c = '/' then '.' else c)))

/-- A field descriptor. -/
inductive FieldText : List Char → Ty → Prop
  | brackets {s : List Char} {t : Ty} (k : Nat) : k ≤ 255 → ComponentText s t →
      FieldText (List.replicate k '[' ++ s) (t.arrays k)

/-- Field descriptors one after the other. -/
inductive ParamsText : List Char → List Ty → Prop
  | nil : ParamsText [] []
  | cons {s text : List Char} {t : Ty} {ts : List Ty} : FieldText s t → ParamsText text ts →
      ParamsText (s ++ text) (t :: ts)

/-- The descriptor of the result of a method. -/
inductive ResultText : List Char → Ty → Prop
  | void : ResultText ['V'] .void
  | field {s : List Char} {t : Ty} : FieldText s t → ResultText s t

/-- A method descriptor. -/
inductive MethodText : List Char → MethodType → Prop
  | parens {text s : List Char} {ts : List Ty} {t : Ty} : ParamsText text ts → ResultText s t →
      MethodText ('(' :: text ++ ')' :: s) ⟨ts, t⟩

lemma mem_letters_iff {c : Char} {p : Primitive} : (c, p) ∈ letters ↔ p.letter = c := by
  cases p <;> simp [letters, Primitive.letter, eq_comm]

/-- No descriptor of a component starts like an array, like the end of the parameters, or like `void`. -/
lemma ComponentText.exists_head (hs : ComponentText s t) :
    ∃ c cs, s = c :: cs ∧ c ≠ '[' ∧ c ≠ ')' ∧ c ≠ 'V' := by
  cases hs with
  | @letter c p hp =>
    obtain rfl := mem_letters_iff.1 hp
    refine ⟨p.letter, [], rfl, ?_⟩
    cases p <;> decide
  | className => exact ⟨'L', _, rfl, by decide, by decide, by decide⟩

lemma FieldText.exists_head (hs : FieldText s t) : ∃ c cs, s = c :: cs ∧ c ≠ ')' ∧ c ≠ 'V' := by
  cases hs with
  | brackets k _ hcore =>
    cases k with
    | zero =>
      obtain ⟨c, cs, rfl, -, hclose, hvoid⟩ := hcore.exists_head
      exact ⟨c, cs, rfl, hclose, hvoid⟩
    | succ k => exact ⟨'[', _, rfl, by decide, by decide⟩

/-! ### Reading a component -/

/-- A class name ends at the first semicolon. -/
lemma span_semicolon (hsemi : ';' ∉ name) (rest : List Char) :
    (name ++ ';' :: rest).takeWhile (· != ';') = name ∧
      (name ++ ';' :: rest).dropWhile (· != ';') = ';' :: rest := by
  have hstop : ∀ c ∈ name, (c != ';') = true := by
    intro c hc
    have hne : c ≠ ';' := fun hcs => hsemi (hcs ▸ hc)
    simpa using hne
  rw [List.takeWhile_append_of_pos hstop, List.dropWhile_append_of_pos hstop]
  simp

lemma readComponent_of_text (hs : ComponentText s t) (rest : List Char) :
    readComponent (s ++ rest) = .ok (t, rest) := by
  cases hs with
  | @letter c p hp =>
    obtain rfl := mem_letters_iff.1 hp
    cases p <;> rfl
  | @className name hne hsemi =>
    obtain ⟨htake, hdrop⟩ := span_semicolon hsemi rest
    obtain ⟨c, cs, rfl⟩ := List.exists_cons_of_ne_nil hne
    have htext : 'L' :: (c :: cs) ++ [';'] ++ rest = 'L' :: (c :: cs ++ ';' :: rest) := by simp
    rw [htext, readComponent, htake, hdrop]
    rfl

lemma text_of_readComponent (hread : readComponent text = .ok (t, rest)) :
    ∃ s, ComponentText s t ∧ text = s ++ rest := by
  rw [readComponent.eq_def] at hread
  split at hread
  · exact absurd hread (by simp)
  · rename_i cs
    split at hread
    · rename_i c name mark after htake hdrop
      obtain ⟨rfl, rfl⟩ : .object (String.ofList (dotted (c :: name))) = t ∧ after = rest := by
        simpa using hread
      have hmark : mark = ';' := by
        have hhead := List.head?_dropWhile_not (· != ';') cs
        rw [hdrop] at hhead
        simpa using hhead
      have hsemi : ';' ∉ c :: name := by
        intro hmem
        rw [← htake] at hmem
        exact absurd (List.all_eq_true.1 List.all_takeWhile _ hmem) (by simp)
      have hcs : cs = c :: name ++ mark :: after := by
        rw [← htake, ← hdrop, List.takeWhile_append_dropWhile]
      refine ⟨'L' :: (c :: name) ++ [';'], .className (by simp) hsemi, ?_⟩
      rw [hcs, hmark]
      simp
    · exact absurd hread (by simp)
  · rename_i c cs _
    split at hread
    · rename_i p hp
      obtain ⟨rfl, rfl⟩ : .prim p = t ∧ cs = rest := by simpa using hread
      exact ⟨[c], .letter (mem_letters_iff.2 (Primitive.ofLetter?_eq_some_iff.1 hp)), rfl⟩
    · exact absurd hread (by simp)

lemma readComponent_eq_error (hread : readComponent text = .error e) : e = fault text := by
  rw [readComponent.eq_def] at hread
  split at hread
  · simpa using hread.symm
  · split at hread
    · exact absurd hread (by simp)
    · simpa using hread.symm
  · split at hread
    · exact absurd hread (by simp)
    · simpa using hread.symm

/-! ### Reading a field -/

/-- The brackets in front of a text, as many as there are. -/
lemma takeWhile_bracket (text : List Char) :
    text.takeWhile (· == '[') = List.replicate (text.takeWhile (· == '[')).length '[' := by
  refine List.eq_replicate_of_mem fun c hc => ?_
  simpa using List.all_eq_true.1 List.all_takeWhile c hc

/-- The brackets in front of a component end where the component begins. -/
lemma span_brackets (k : Nat) (hs : ComponentText s t) (rest : List Char) :
    ((List.replicate k '[' ++ s ++ rest).takeWhile (· == '[')).length = k ∧
      (List.replicate k '[' ++ s ++ rest).dropWhile (· == '[') = s ++ rest := by
  obtain ⟨c, cs, rfl, hc, -, -⟩ := hs.exists_head
  have hbrackets : ∀ d ∈ List.replicate k '[', (d == '[') = true := by
    intro d hd
    rw [List.eq_of_mem_replicate hd]
    rfl
  rw [List.append_assoc, List.takeWhile_append_of_pos hbrackets, List.dropWhile_append_of_pos hbrackets]
  simp [hc]

lemma readField_of_text (hs : FieldText s t) (rest : List Char) :
    readField (s ++ rest) = .ok (t, rest) := by
  cases hs with
  | brackets k hk hcore =>
    obtain ⟨hcount, hdrop⟩ := span_brackets k hcore rest
    have hdims : k ≤ maxDimensions := hk
    simp only [readField, hcount, hdrop, if_pos hdims, readComponent_of_text hcore, Except.map]

/-- **A field descriptor is read off the front of a text** exactly if the text starts with one. -/
lemma readField_eq_ok_iff :
    readField text = .ok (t, rest) ↔ ∃ s, FieldText s t ∧ text = s ++ rest := by
  constructor
  · intro hread
    rw [readField] at hread
    dsimp only at hread
    split at hread
    · rename_i hk
      cases hcomp : readComponent (text.dropWhile (· == '[')) with
      | error e =>
        rw [hcomp] at hread
        exact absurd hread (by simp [Except.map])
      | ok r =>
        obtain ⟨core, after⟩ := r
        rw [hcomp] at hread
        obtain ⟨rfl, rfl⟩ : core.arrays (text.takeWhile (· == '[')).length = t ∧ after = rest := by
          simpa [Except.map] using hread
        obtain ⟨s, hs, hdrop⟩ := text_of_readComponent hcomp
        refine ⟨_, .brackets _ hk hs, ?_⟩
        rw [List.append_assoc, ← hdrop, ← takeWhile_bracket, List.takeWhile_append_dropWhile]
    · exact absurd hread (by simp)
  · rintro ⟨s, hs, rfl⟩
    exact readField_of_text hs rest

/-! ### Reading the parts of a method -/

/-- A text that starts with a field descriptor does not start with a parenthesis. -/
lemma readParams_of_readField (hread : readField text = .ok (t, rest)) :
    readParams whole text = (readParams whole rest).map fun (ts, after) => (t :: ts, after) := by
  obtain ⟨s, hs, rfl⟩ := readField_eq_ok_iff.1 hread
  obtain ⟨c, cs, rfl, hclose, -⟩ := hs.exists_head
  rw [List.cons_append] at hread ⊢
  rw [readParams.eq_def]
  split
  · rename_i hnil
    exact absurd hnil (by simp)
  · rename_i after hcons
    exact absurd (List.cons.inj hcons).1 hclose
  · rename_i d ds _ hcons
    obtain ⟨rfl, rfl⟩ := List.cons.inj hcons
    split
    · rename_i e herr
      exact absurd (hread.symm.trans herr) (by simp)
    · rename_i u after hok
      obtain ⟨rfl, rfl⟩ : t = u ∧ rest = after := by simpa using hread.symm.trans hok
      rfl

/-- The induction follows the reading of one parameter after the other, and back along the derivation. -/
lemma readParams_eq_ok_iff :
    readParams whole text = .ok (ts, rest) ↔ ∃ s, ParamsText s ts ∧ text = s ++ ')' :: rest := by
  constructor
  · intro hread
    fun_induction readParams whole text generalizing ts with
    | case1 => exact absurd hread (by simp)
    | case2 cs =>
      obtain ⟨rfl, rfl⟩ : [] = ts ∧ cs = rest := by simpa using hread
      exact ⟨[], .nil, rfl⟩
    | case3 c cs _ e herr => exact absurd hread (by simp)
    | case4 c cs _ t after hfield hlt ih =>
      cases hmore : readParams whole after with
      | error e =>
        rw [hmore] at hread
        exact absurd hread (by simp [Except.map])
      | ok r =>
        obtain ⟨us, left⟩ := r
        rw [hmore] at hread
        obtain ⟨rfl, rfl⟩ : t :: us = ts ∧ left = rest := by simpa [Except.map] using hread
        obtain ⟨s, hs, hcons⟩ := readField_eq_ok_iff.1 hfield
        obtain ⟨text, htext, rfl⟩ := ih hmore
        exact ⟨s ++ text, .cons hs htext, by rw [hcons, List.append_assoc]⟩
  · rintro ⟨s, hs, rfl⟩
    induction hs with
    | nil =>
      rw [readParams.eq_def]
      rfl
    | cons hfield _ ih =>
      rw [List.append_assoc, readParams_of_readField (readField_of_text hfield _), ih]
      rfl

lemma readResult_eq_ok_iff :
    readResult whole text = .ok (t, rest) ↔ ∃ s, ResultText s t ∧ text = s ++ rest := by
  constructor
  · intro hread
    rw [readResult.eq_def] at hread
    split at hread
    · exact absurd hread (by simp)
    · obtain ⟨rfl, rfl⟩ : .void = t ∧ _ = rest := by simpa using hread
      exact ⟨['V'], .void, rfl⟩
    · obtain ⟨s, hs, rfl⟩ := readField_eq_ok_iff.1 hread
      exact ⟨s, .field hs, rfl⟩
  · rintro ⟨s, hs, rfl⟩
    cases hs with
    | void => rfl
    | field hfield =>
      have hread := readField_of_text hfield rest
      obtain ⟨c, cs, rfl, -, hvoid⟩ := hfield.exists_head
      rw [readResult.eq_def]
      split
      · rename_i hnil
        exact absurd hnil (by simp)
      · rename_i after hcons
        exact absurd (List.cons.inj hcons).1 hvoid
      · exact hread

/-! ### Whole texts -/

/-- **Field descriptors** are the texts that the grammar derives. -/
lemma parseField_eq_ok_iff {d : String} : parseField d = .ok t ↔ FieldText d.toList t := by
  have hwhole : readField d.toList = .ok (t, []) ↔ FieldText d.toList t := by
    rw [readField_eq_ok_iff]
    simp
  rw [← hwhole, parseField]
  split
  · rename_i e hread
    simp [hread]
  · rename_i u hread
    simp [hread]
  · rename_i u c cs hread
    simp [hread]

/-- **Method descriptors** are the texts that the grammar derives. -/
lemma parseMethod_eq_ok_iff {d : String} {m : MethodType} :
    parseMethod d = .ok m ↔ MethodText d.toList m := by
  constructor
  · intro hparse
    rw [parseMethod] at hparse
    split at hparse
    · rename_i cs hd
      split at hparse
      · exact absurd hparse (by simp)
      · rename_i params rest hparams
        split at hparse
        · exact absurd hparse (by simp)
        · rename_i result hresult
          obtain rfl : ⟨params, result⟩ = m := by simpa using hparse
          obtain ⟨text, htext, rfl⟩ := readParams_eq_ok_iff.1 hparams
          obtain ⟨s, hs, rfl⟩ := readResult_eq_ok_iff.1 hresult
          rw [hd, List.append_nil]
          exact .parens htext hs
        · exact absurd hparse (by simp)
    · exact absurd hparse (by simp)
  · intro hd
    generalize htext : d.toList = text at hd
    cases hd with
    | @parens text s ts t hparams hresult =>
      have hread : readParams d.toList (text ++ ')' :: s) = .ok (ts, s) :=
        readParams_eq_ok_iff.2 ⟨text, hparams, rfl⟩
      have hresult' : readResult d.toList s = .ok (t, []) :=
        readResult_eq_ok_iff.2 ⟨s, hresult, (List.append_nil s).symm⟩
      rw [htext] at hread hresult'
      simp only [parseMethod, htext, List.cons_append] at hread hresult' ⊢
      simp only [hread, hresult']

/-! ### What is echoed -/

/-- The error echoes a text from some character on, perhaps cut short. -/
def Echoes (text : List Char) (e : DescriptorError) : Prop :=
  ∃ s, s <:+ text ∧ (e = fault s ∨ e = fault (truncated s))

lemma Echoes.mono (hsuffix : text <:+ whole) : Echoes text e → Echoes whole e := by
  rintro ⟨s, hs, he⟩
  exact ⟨s, hs.trans hsuffix, he⟩

lemma echoes_whole (text : List Char) : Echoes text (fault text) := ⟨text, List.suffix_rfl, Or.inl rfl⟩

lemma echoes_of_readField (hread : readField text = .error e) : Echoes text e := by
  rw [readField] at hread
  dsimp only at hread
  split at hread
  · cases hcomp : readComponent (text.dropWhile (· == '[')) with
    | ok r =>
      rw [hcomp] at hread
      exact absurd hread (by simp [Except.map])
    | error e' =>
      rw [hcomp] at hread
      obtain rfl : e' = e := by simpa [Except.map] using hread
      exact ⟨_, List.dropWhile_suffix _, Or.inl (readComponent_eq_error hcomp)⟩
  · exact ⟨text, List.suffix_rfl, Or.inr (by simpa using hread.symm)⟩

lemma echoes_of_readParams (hsuffix : text <:+ whole) (hread : readParams whole text = .error e) :
    Echoes whole e := by
  fun_induction readParams whole text with
  | case1 =>
    obtain rfl : fault whole = e := by simpa using hread
    exact echoes_whole whole
  | case2 cs => exact absurd hread (by simp)
  | case3 c cs _ e' herr =>
    obtain rfl : e' = e := by simpa using hread
    exact (echoes_of_readField herr).mono hsuffix
  | case4 c cs _ t after hfield hlt ih =>
    obtain ⟨s, -, hcons⟩ := readField_eq_ok_iff.1 hfield
    have hafter : after <:+ whole := List.IsSuffix.trans ⟨s, hcons.symm⟩ hsuffix
    cases hmore : readParams whole after with
    | ok r =>
      rw [hmore] at hread
      exact absurd hread (by simp [Except.map])
    | error e' =>
      rw [hmore] at hread
      obtain rfl : e' = e := by simpa [Except.map] using hread
      exact ih hafter hmore

lemma echoes_of_readResult (hsuffix : text <:+ whole) (hread : readResult whole text = .error e) :
    Echoes whole e := by
  rw [readResult.eq_def] at hread
  split at hread
  · obtain rfl : fault whole = e := by simpa using hread
    exact echoes_whole whole
  · exact absurd hread (by simp)
  · exact (echoes_of_readField hread).mono hsuffix

lemma echoes_text (d : String) : Echoes d.toList ⟨d⟩ := by
  have hd : (⟨d⟩ : DescriptorError) = fault d.toList := by rw [fault, String.ofList_toList]
  rw [hd]
  exact echoes_whole d.toList

lemma echoes_of_parseField {d : String} (hparse : parseField d = .error e) : Echoes d.toList e := by
  rw [parseField] at hparse
  split at hparse
  · rename_i e' hread
    obtain rfl : e' = e := by simpa using hparse
    exact echoes_of_readField hread
  · exact absurd hparse (by simp)
  · obtain rfl : ⟨d⟩ = e := by simpa using hparse
    exact echoes_text d

lemma echoes_of_parseMethod {d : String} (hparse : parseMethod d = .error e) : Echoes d.toList e := by
  rw [parseMethod] at hparse
  split at hparse
  · rename_i cs hd
    have hcs : cs <:+ d.toList := hd ▸ List.suffix_cons _ _
    split at hparse
    · rename_i e' hparams
      obtain rfl : e' = e := by simpa using hparse
      exact echoes_of_readParams hcs hparams
    · rename_i params rest hparams
      obtain ⟨text, -, rfl⟩ := readParams_eq_ok_iff.1 hparams
      have hrest : rest <:+ d.toList := ((List.suffix_cons _ _).trans (List.suffix_append _ _)).trans hcs
      split at hparse
      · rename_i e' hresult
        obtain rfl : e' = e := by simpa using hparse
        exact echoes_of_readResult hrest hresult
      · exact absurd hparse (by simp)
      · obtain rfl : ⟨d⟩ = e := by simpa using hparse
        exact echoes_text d
  · obtain rfl : ⟨d⟩ = e := by simpa using hparse
    exact echoes_text d

/-! ### The grammar is what is read -/

/-- **Exactly the derived texts are read, with the types that are derived with them**, and every other text is refused
with an error that echoes some end of the text. -/
theorem parse_iff_grammar :
    (∀ (d : String) (t : Ty), parseField d = .ok t ↔ FieldText d.toList t) ∧
    (∀ (d : String) (m : MethodType), parseMethod d = .ok m ↔ MethodText d.toList m) ∧
    (∀ d : String, (∀ t, ¬ FieldText d.toList t) → ∃ e, parseField d = .error e ∧ Echoes d.toList e) ∧
    ∀ d : String, (∀ m, ¬ MethodText d.toList m) → ∃ e, parseMethod d = .error e ∧ Echoes d.toList e := by
  refine ⟨fun d t => parseField_eq_ok_iff, fun d m => parseMethod_eq_ok_iff, fun d hnone => ?_, fun d hnone => ?_⟩
  · cases hparse : parseField d with
    | error e => exact ⟨e, rfl, echoes_of_parseField hparse⟩
    | ok t => exact absurd (parseField_eq_ok_iff.1 hparse) (hnone t)
  · cases hparse : parseMethod d with
    | error e => exact ⟨e, rfl, echoes_of_parseMethod hparse⟩
    | ok m => exact absurd (parseMethod_eq_ok_iff.1 hparse) (hnone m)

theorem parse_iff_grammar_samples :
    MethodText ('(' :: "I[La/ü;".toList ++ ')' :: ['V']) ⟨[.prim .int, .array (.object "a.ü")], .void⟩ ∧
      parseMethod "(I[La/ü;)V" = .ok ⟨[.prim .int, .array (.object "a.ü")], .void⟩ ∧
      (∀ t, ¬ FieldText "IJ".toList t) ∧ (∃ e, parseField "IJ" = .error e ∧ Echoes "IJ".toList e) ∧
      (∀ m, ¬ MethodText "(L;)V".toList m) ∧ ∃ e, parseMethod "(L;)V" = .error e ∧ Echoes "(L;)V".toList e := by
  have hparams : ParamsText "I[La/ü;".toList [.prim .int, .array (.object "a.ü")] :=
    .cons (.brackets 0 (by decide) (.letter (by decide)))
      (.cons (.brackets 1 (by decide) (@ComponentText.className "a/ü".toList (by decide) (by decide))) .nil)
  have hmethod := MethodText.parens hparams .void
  obtain ⟨hfields, hmethods, hnoField, hnoMethod⟩ := parse_iff_grammar
  have hrefused : parseMethod "(L;)V" = .error ⟨"L;)V"⟩ := by cbv
  have hfield : ∀ t, ¬ FieldText "IJ".toList t := fun t ht => by cases (hfields "IJ" t).2 ht
  have hmethod' : ∀ m, ¬ MethodText "(L;)V".toList m := fun m hm => by
    cases hrefused.symm.trans ((hmethods "(L;)V" m).2 hm)
  exact ⟨hmethod, (hmethods "(I[La/ü;)V" _).2 hmethod, hfield, hnoField _ hfield, hmethod', hnoMethod _ hmethod'⟩

end Descriptor

end CallTargets
