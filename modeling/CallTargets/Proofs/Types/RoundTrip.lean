import CallTargets.Proofs.Types.Erasure
import CallTargets.Proofs.Types.Grammar
import CallTargets.Signature

/-!
# Writing and reading descriptors

Writing a type and reading its descriptor undo each other, in both directions.  Both directions go through the grammar.

* What is written is derived: `Descriptor.fieldText_descriptor` for one type, and `Descriptor.parseMethod_text` for a
  method, which is therefore read back.  The class names must be such that a descriptor can hold them, and there must not
  be too many array dimensions.
* What is derived is written: `Descriptor.FieldText.slashed_eq`, and `Descriptor.text_of_parseMethod` for a method that
  was read.  A dot in a class name is read as if it were a slash, so it comes back as one; nothing else about the text is
  lost.
* `descriptor_round_trip` puts the two directions together, for the signatures of declared methods, whose types are erased
  when they are read back.
-/

namespace CallTargets

/-! ### What can be written and read back -/

/-- A class name that a descriptor can hold. -/
structure PlainName (name : ClassName) : Prop where
  ne_empty : name ≠ ""
  no_semicolon : ';' ∉ name.toList
  no_slash : '/' ∉ name.toList

/-- Primitive types, classes with plain names, and arrays of these. -/
inductive Ty.Describable : Ty → Prop
  | prim (p : Primitive) : Ty.Describable (.prim p)
  | object {name : ClassName} : PlainName name → Ty.Describable (.object name)
  | array {component : Ty} : component.Describable → Ty.Describable (.array component)

/-- The types that a field descriptor can stand for. -/
structure Ty.IsField (t : Ty) : Prop where
  describable : t.Describable
  dimensions_le : t.dimensions ≤ Descriptor.maxDimensions

namespace MethodType

/-- The types that a method descriptor can stand for; only the result may be `void`. -/
structure Describable (m : MethodType) : Prop where
  params : ∀ t ∈ m.params, t.IsField
  result : m.result = .void ∨ m.result.IsField

/-- The method descriptor: the parameters one after the other in parentheses, and the result. -/
def text (m : MethodType) : String :=
  String.ofList ('(' :: (m.params.flatMap fun t => t.encode.value) ++ ')' :: m.result.encode.value)

end MethodType

namespace MethodDecl

/-- The erased types of a declared method. -/
def erasedType (m : MethodDecl) : MethodType := ⟨m.params.map Ty.erased, m.result.erased⟩

/-- No variable without bounds is met on the way to a descriptor. -/
structure Bounded (m : MethodDecl) : Prop where
  params : ∀ t ∈ m.params, t.boundless? = none
  result : m.result.boundless? = none

end MethodDecl

namespace Descriptor

variable {name text : List Char} {t : Ty} {ts : List Ty}

/-- A text with every dot replaced by a slash. -/
def slashedText (d : String) : String := d.map fun c => if c = '.' then '/' else c

/-! ### Dots and slashes -/

@[simp] lemma slashed_nil : slashed [] = [] := rfl

@[simp] lemma slashed_cons (c : Char) (cs : List Char) :
    slashed (c :: cs) = (if c = '.' then '/' else c) :: slashed cs := rfl

@[simp] lemma slashed_append (cs ds : List Char) : slashed (cs ++ ds) = slashed cs ++ slashed ds :=
  List.map_append

lemma toList_slashedText (d : String) : (slashedText d).toList = slashed d.toList :=
  String.toList_map

lemma slashed_eq_self (hdot : '.' ∉ text) : slashed text = text := by
  rw [slashed, List.map_congr_left (g := id), List.map_id]
  intro c hc
  have hne : c ≠ '.' := fun hcd => hdot (hcd ▸ hc)
  exact if_neg hne

lemma dotted_slashed (hslash : '/' ∉ name) : dotted (slashed name) = name := by
  rw [dotted, slashed, List.map_map, List.map_congr_left (g := id), List.map_id]
  intro c hc
  have hne : c ≠ '/' := fun hcs => hslash (hcs ▸ hc)
  by_cases hdot : c = '.'
  · simp [hdot]
  · simp [hdot, hne]

/-- Both separators are written as slashes, so it does not matter which of them was read. -/
lemma slashed_dotted (name : List Char) : slashed (dotted name) = slashed name := by
  rw [slashed, slashed, dotted, List.map_map]
  refine List.map_congr_left fun c _ => ?_
  by_cases hslash : c = '/'
  · simp [hslash]
  · simp [hslash]

lemma not_mem_slashed (hsemi : ';' ∉ name) : ';' ∉ slashed name := by
  intro hmem
  obtain ⟨c, hc, hcs⟩ := List.mem_map.1 hmem
  by_cases hdot : c = '.'
  · exact absurd hcs (by simp [hdot])
  · rw [if_neg hdot] at hcs
    exact hsemi (hcs ▸ hc)

/-! ### What is written is derived -/

lemma componentText_object {name : ClassName} (hname : PlainName name) :
    ComponentText (Ty.object name).descriptor (.object name) := by
  have hne : slashed name.toList ≠ [] := by
    simpa [slashed] using hname.ne_empty
  have hderived : ComponentText ('L' :: slashed name.toList ++ [';'])
      (.object (String.ofList (dotted (slashed name.toList)))) :=
    .className hne (not_mem_slashed hname.no_semicolon)
  rwa [dotted_slashed hname.no_slash, String.ofList_toList] at hderived

/-- Below its dimensions a type has a component. -/
lemma exists_component (ht : t.Describable) :
    ∃ core : Ty, ComponentText core.descriptor core ∧ core.arrays t.dimensions = t := by
  induction ht with
  | prim p => exact ⟨.prim p, .letter (mem_letters_iff.2 rfl), rfl⟩
  | @object name hname => exact ⟨.object name, componentText_object hname, rfl⟩
  | @array component _ ih =>
    obtain ⟨core, hcore, harrays⟩ := ih
    exact ⟨core, hcore, congrArg Ty.array harrays⟩

lemma descriptor_arrays (k : Nat) (t : Ty) :
    (t.arrays k).descriptor = List.replicate k '[' ++ t.descriptor := by
  induction k with
  | zero => rfl
  | succ k ih =>
    show '[' :: (t.arrays k).descriptor = '[' :: (List.replicate k '[' ++ t.descriptor)
    rw [ih]

/-- **The descriptor of a type is derived with the type.** -/
lemma fieldText_descriptor (ht : t.IsField) : FieldText t.descriptor t := by
  obtain ⟨core, hcore, harrays⟩ := exists_component ht.describable
  have hderived := FieldText.brackets t.dimensions ht.dimensions_le hcore
  rwa [← descriptor_arrays, harrays] at hderived

lemma paramsText_descriptors (hts : ∀ t ∈ ts, t.IsField) : ParamsText (ts.flatMap Ty.descriptor) ts := by
  induction ts with
  | nil => exact .nil
  | cons t ts ih =>
    obtain ⟨ht, hts⟩ := List.forall_mem_cons.1 hts
    rw [List.flatMap_cons]
    exact .cons (fieldText_descriptor ht) (ih hts)

lemma resultText_descriptor (ht : t = .void ∨ t.IsField) : ResultText t.descriptor t := by
  rcases ht with rfl | ht
  · exact .void
  · exact .field (fieldText_descriptor ht)

lemma toList_text (m : MethodType) :
    m.text.toList = '(' :: m.params.flatMap Ty.descriptor ++ ')' :: m.result.descriptor := by
  rw [MethodType.text, String.toList_ofList]
  rfl

/-- **The types of a method are read back from its descriptor.** -/
lemma parseMethod_text {m : MethodType} (hm : m.Describable) : parseMethod m.text = .ok m := by
  rw [parseMethod_eq_ok_iff, toList_text]
  exact .parens (paramsText_descriptors hm.params) (resultText_descriptor hm.result)

/-! ### What is derived is written -/

lemma ComponentText.slashed_eq (hs : ComponentText text t) : slashed text = t.descriptor := by
  cases hs with
  | @letter c p hp =>
    obtain rfl := mem_letters_iff.1 hp
    have hdot : p.letter ≠ '.' := by cases p <;> decide
    rw [slashed_cons, if_neg hdot]
    rfl
  | @className name =>
    show slashed ('L' :: name ++ [';']) = (Ty.object (String.ofList (dotted name))).descriptor
    rw [Ty.descriptor, String.toList_ofList, slashed_dotted]
    simp

/-- **A field descriptor is the one that is written** for the type that is derived with it, up to the separators in class
names. -/
lemma FieldText.slashed_eq (hs : FieldText text t) : slashed text = t.descriptor := by
  cases hs with
  | brackets k _ hcore =>
    have hbrackets : slashed (List.replicate k '[') = List.replicate k '[' :=
      slashed_eq_self fun hdot => absurd (List.eq_of_mem_replicate hdot) (by decide)
    rw [slashed_append, hbrackets, hcore.slashed_eq, descriptor_arrays]

lemma ParamsText.slashed_eq (hs : ParamsText text ts) : slashed text = ts.flatMap Ty.descriptor := by
  induction hs with
  | nil => rfl
  | cons hfield _ ih => rw [slashed_append, hfield.slashed_eq, ih, List.flatMap_cons]

lemma ResultText.slashed_eq (hs : ResultText text t) : slashed text = t.descriptor := by
  cases hs with
  | void => rfl
  | field hfield => exact hfield.slashed_eq

/-- **A field descriptor** that is accepted is the one that is written for its type. -/
lemma descriptor_of_parseField {d : String} (hparse : parseField d = .ok t) :
    t.descriptor = slashed d.toList :=
  (parseField_eq_ok_iff.1 hparse).slashed_eq.symm

/-- **A method descriptor** that is accepted is the one that is written for its types. -/
lemma text_of_parseMethod {d : String} {m : MethodType} (hparse : parseMethod d = .ok m) :
    m.text = slashedText d := by
  have hd := parseMethod_eq_ok_iff.1 hparse
  rw [← String.toList_inj, toList_slashedText, toList_text]
  generalize d.toList = text at hd
  cases hd with
  | parens hparams hresult =>
    rw [slashed_append, slashed_cons, slashed_cons, hparams.slashed_eq, hresult.slashed_eq]
    rfl

end Descriptor

/-! ### Signatures -/

lemma Ty.value_encodeAll (ts : List Ty) : (Ty.encodeAll ts).value = ts.flatMap Ty.descriptor := by
  induction ts with
  | nil => rfl
  | cons t ts ih =>
    show t.descriptor ++ (Ty.encodeAll ts).value = _
    rw [ih, List.flatMap_cons]

/-- The signature of a declared method is the descriptor of its erased types. -/
lemma MethodDecl.signature_eq_text {m : MethodDecl} (hm : m.Bounded) :
    m.signature.value = m.erasedType.text := by
  have hparams : m.params.flatMap Ty.descriptor = (m.params.map Ty.erased).flatMap Ty.descriptor := by
    rw [List.flatMap_def, List.flatMap_def, List.map_map]
    refine congrArg List.flatten (List.map_congr_left fun t ht => ?_)
    exact (Ty.descriptor_erased (hm.params t ht)).symm
  have hresult : m.result.descriptor = m.result.erased.descriptor :=
    (Ty.descriptor_erased hm.result).symm
  show String.ofList ('(' :: (Ty.encodeAll m.params).value ++ ')' :: m.result.descriptor) =
    String.ofList ('(' :: (m.params.map Ty.erased).flatMap Ty.descriptor ++ ')' :: m.result.erased.descriptor)
  rw [Ty.value_encodeAll, hparams, hresult]

/-! ### The round trip -/

/-- **Writing and reading descriptors undo each other.**  The signature of a declared method is read back as its erased
types, and a descriptor that is accepted is written back as it was, but for the dots in it. -/
theorem descriptor_round_trip :
    (∀ m : MethodDecl, m.erasedType.Describable → m.Bounded →
      Descriptor.parseMethod m.signature.value = .ok m.erasedType) ∧
    (∀ (d : String) (m : MethodType), Descriptor.parseMethod d = .ok m →
      m.text = Descriptor.slashedText d) ∧
    (∀ (d : String) (t : Ty), Descriptor.parseField d = .ok t →
      String.ofList t.encode.value = Descriptor.slashedText d) ∧
    ∀ d : String, '.' ∉ d.toList → Descriptor.slashedText d = d := by
  refine ⟨fun m htypes hbounded => ?_, fun d m => Descriptor.text_of_parseMethod, fun d t hparse => ?_,
    fun d hdot => ?_⟩
  · rw [MethodDecl.signature_eq_text hbounded]
    exact Descriptor.parseMethod_text htypes
  · rw [← String.toList_inj, String.toList_ofList, Descriptor.toList_slashedText]
    exact Descriptor.descriptor_of_parseField hparse
  · rw [← String.toList_inj, Descriptor.toList_slashedText]
    exact Descriptor.slashed_eq_self hdot

/-- A method whose parameters are a variable with an array as its first bound, a variable that is not known and an array
of numbers. -/
def MethodDecl.collect : MethodDecl :=
  ⟨"collect", 0, [.typeVar [.array (.object "a.Größe"), .object "a.B"], .unknown, .array (.prim .long)], .void⟩

theorem round_trip_collect :
    MethodDecl.collect.erasedType.Describable ∧ MethodDecl.collect.Bounded ∧
      Descriptor.parseMethod MethodDecl.collect.signature.value =
        .ok ⟨[.array (.object "a.Größe"), .object "java.lang.Object", .array (.prim .long)], .void⟩ ∧
      Descriptor.parseMethod "(La.b/C;)[I" = .ok ⟨[.object "a.b.C"], .array (.prim .int)⟩ ∧
      (⟨[.object "a.b.C"], .array (.prim .int)⟩ : MethodType).text = "(La/b/C;)[I" := by
  have hclass : PlainName "a.Größe" := ⟨by decide, by decide, by decide⟩
  have hroot : PlainName rootClass := ⟨by decide, by decide, by decide⟩
  have htypes : MethodDecl.collect.erasedType.Describable := by
    refine ⟨fun t ht => ?_, Or.inl rfl⟩
    have hcases : t = .array (.object "a.Größe") ∨ t = .root ∨ t = .array (.prim .long) := by
      simpa [MethodDecl.erasedType, MethodDecl.collect, Ty.erased, Ty.erasedFirst] using ht
    rcases hcases with rfl | rfl | rfl
    · exact ⟨.array (.object hclass), by decide⟩
    · exact ⟨.object hroot, by decide⟩
    · exact ⟨.array (.prim .long), by decide⟩
  have hbounded : MethodDecl.collect.Bounded := ⟨by decide, rfl⟩
  have hparse : Descriptor.parseMethod "(La.b/C;)[I" = .ok ⟨[.object "a.b.C"], .array (.prim .int)⟩ := by
    cbv
  obtain ⟨hread, hwrite, -, -⟩ := descriptor_round_trip
  exact ⟨htypes, hbounded, hread _ htypes hbounded, hparse, (hwrite _ _ hparse).trans (by cbv)⟩

end CallTargets
