import CallTargets.CallSite
import CallTargets.Proofs.Types.RoundTrip

/-!
# Methods of the root class

Two of the methods that every class has from the root class are told by the text of their signature, and the third one by
the types that the signature stands for.  A dot in a descriptor is read as if it were a slash, so there is more than one text
for these types.

* `Descriptor.spellings` are the texts that differ from another one in this respect only.
* `isGetClass_eq_true_iff`: all spellings of one signature are accepted, and nothing else is.
* `isObjectMethod_spellings` is the main result, and `isGetClass_dotted` shows that the text alone does not tell.
-/

namespace CallTargets

namespace Descriptor

variable {text target : List Char}

/-- The texts that become `target` if their dots are replaced by slashes. -/
def spellings : List Char → List (List Char)
  | [] => [[]]
  | c :: target =>
    if c = '/' then (spellings target).flatMap fun text => ['/' :: text, '.' :: text]
    else (spellings target).map (c :: ·)

lemma mem_spellings_iff (hdot : '.' ∉ target) : text ∈ spellings target ↔ slashed text = target := by
  induction target generalizing text with
  | nil => simp [spellings, slashed]
  | cons c target ih =>
    obtain ⟨hc, htarget⟩ := not_or.1 (mt List.mem_cons.2 hdot)
    rw [spellings]
    cases text with
    | nil => split <;> simp
    | cons d text =>
      rw [slashed_cons, List.cons.injEq, ← ih htarget]
      split
      · rename_i hslash
        subst hslash
        by_cases hd : d = '.'
        · simp [hd]
        · simp [hd, and_comm]
      · rename_i hslash
        by_cases hd : d = '.'
        · have hne : '/' ≠ c := Ne.symm hslash
          simp [hd, hne, Ne.symm hc]
        · simp [hd, eq_comm, and_comm]

end Descriptor

namespace CallSite

variable {site : CallSite}

/-- The signatures that stand for a method without parameters whose result is the class of an object. -/
def getClassSignatures : List String :=
  ["()Ljava/lang/Class;", "()Ljava.lang/Class;", "()Ljava/lang.Class;", "()Ljava.lang.Class;"]

lemma mem_getClassSignatures_iff (d : String) :
    d ∈ getClassSignatures ↔ Descriptor.slashedText d = "()Ljava/lang/Class;" := by
  have hspellings : Descriptor.spellings "()Ljava/lang/Class;".toList = getClassSignatures.map String.toList := by
    decide
  have hinj : Function.Injective String.toList := fun _ _ => String.toList_inj.1
  rw [← String.toList_inj, Descriptor.toList_slashedText, ← Descriptor.mem_spellings_iff (by decide), hspellings,
    List.mem_map_of_injective hinj]

lemma parseMethod_getClassSignatures {d : String} (hd : d ∈ getClassSignatures) :
    Descriptor.parseMethod d = .ok ⟨[], .object classClass⟩ := by
  simp only [getClassSignatures, List.mem_cons, List.not_mem_nil, or_false] at hd
  rcases hd with rfl | rfl | rfl | rfl <;> cbv

/-- A signature stands for no parameters and a class as the result exactly in its four spellings. -/
lemma parseMethod_eq_getClass_iff {d : String} :
    Descriptor.parseMethod d = .ok ⟨[], .object classClass⟩ ↔ d ∈ getClassSignatures := by
  refine ⟨fun hparse => ?_, parseMethod_getClassSignatures⟩
  rw [mem_getClassSignatures_iff, ← Descriptor.text_of_parseMethod hparse]
  decide

lemma isGetClass_eq_true_iff :
    site.isGetClass = true ↔ site.name = "getClass" ∧ site.signature ∈ getClassSignatures := by
  rw [isGetClass, Bool.and_eq_true, beq_iff_eq, ← parseMethod_eq_getClass_iff]
  refine and_congr_right fun _ => ?_
  cases Descriptor.parseMethod site.signature with
  | error e => simp
  | ok m =>
    obtain ⟨params, result⟩ := m
    cases result <;> simp [Ty.className?]

/-- **The methods of the root class.**  The class of an object is asked for exactly if the signature is one of four spellings,
and exactly one of them has no dot.  The other two methods are told by their text. -/
theorem isObjectMethod_spellings (site : CallSite) :
    (site.isGetClass = true ↔
      site.name = "getClass" ∧ site.signature ∈
        ["()Ljava/lang/Class;", "()Ljava.lang/Class;", "()Ljava/lang.Class;", "()Ljava.lang.Class;"]) ∧
    (site.isObjectMethod = true ↔
      site.isGetClass = true ∨ (site.name = "hashCode" ∧ site.signature = "()I") ∨
        (site.name = "equals" ∧ site.signature = "(Ljava/lang/Object;)Z")) ∧
    (site.isGetClass = true ∧ '.' ∉ site.signature.toList ↔
      site.name = "getClass" ∧ site.signature = "()Ljava/lang/Class;") := by
  refine ⟨isGetClass_eq_true_iff, ?_, ?_⟩
  · simp [isObjectMethod, or_assoc]
  · rw [isGetClass_eq_true_iff, and_assoc]
    refine and_congr_right fun _ => ⟨?_, ?_⟩
    · rintro ⟨hmem, hdot⟩
      simp only [getClassSignatures, List.mem_cons, List.not_mem_nil, or_false] at hmem
      rcases hmem with heq | heq | heq | heq
      · exact heq
      · exact absurd hdot (by rw [heq]; decide)
      · exact absurd hdot (by rw [heq]; decide)
      · exact absurd hdot (by rw [heq]; decide)
    · intro heq
      rw [heq]
      decide

/-- A call for the class of an object, with dots in the signature. -/
def dottedGetClass : CallSite := ⟨"a.A", "getClass", "()Ljava.lang.Class;", false, none, none⟩

/-- Texts other than that of the signature itself are accepted. -/
theorem isGetClass_dotted :
    dottedGetClass.isGetClass = true ∧ dottedGetClass.isObjectMethod = true ∧
      ¬ ∀ site : CallSite, site.isGetClass = true ↔
        site.name = "getClass" ∧ site.signature = "()Ljava/lang/Class;" := by
  have hget : dottedGetClass.isGetClass = true := by cbv
  refine ⟨hget, by rw [isObjectMethod, hget]; rfl, fun hexact => ?_⟩
  exact absurd ((hexact dottedGetClass).1 hget).2 (by decide)

end CallSite

end CallTargets
