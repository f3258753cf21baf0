import CallTargets.Proofs.Dispatch.Outcome
import CallTargets.Proofs.Merge.Order

/-!
# Merging finds the more derived type

Both walks up the hierarchy decide the order of the declarations: `extendsInterface_eq_true_iff` and
`outcome_extendsClass`.  So a merge of two types returns the one that is below the other, whichever comes first, and
fails if neither is.

`Merged` states what the merges of two types in both orders have to do with each other.  It is symmetric, so that each
pair of rules of the merge which mirror each other is looked at once.

* `merge_more_derived` is the main result, for hierarchies without cycles in which superclasses are declared.
-/

namespace CallTargets

namespace Hierarchy

variable {h : Hierarchy} {c d : ClassDecl} {name target : ClassName} {names : List ClassName}

/-! ### The walks up the hierarchy -/

lemma mem_declaredSuperclass_iff :
    name ∈ (h.declaredSuperclass c).value ↔ c.superName = some name ∧ (h.find? name).isSome := by
  rw [declaredSuperclass]
  cases c.superName with
  | none => simp
  | some m =>
    dsimp only
    cases hf : h.find? m with
    | none =>
      rw [Logged.value_bind, Logged.value_pure]
      refine iff_of_false List.not_mem_nil ?_
      rintro ⟨hm, hsome⟩
      obtain rfl : m = name := Option.some.inj hm
      exact absurd hsome (by simp [hf])
    | some d =>
      rw [Logged.value_pure, List.mem_singleton, Option.some.injEq]
      refine ⟨?_, fun hm => hm.1.symm⟩
      rintro rfl
      exact ⟨rfl, by simp [hf]⟩

lemma mem_declaredInterfaces_iff :
    name ∈ (h.declaredInterfaces names).value ↔ name ∈ names ∧ (h.find? name).isSome := by
  induction names with
  | nil => simp [declaredInterfaces]
  | cons m names ih =>
    rw [declaredInterfaces, Logged.value_bind]
    cases hf : h.find? m with
    | none =>
      have hne : (h.find? name).isSome → name ≠ m := by
        rintro hsome rfl
        exact absurd hsome (by simp [hf])
      simp only [Logged.value_bind, Logged.value_pure, ih, List.mem_cons]
      exact ⟨fun hm => ⟨Or.inr hm.1, hm.2⟩, fun hm => ⟨hm.1.resolve_left (hne hm.2), hm.2⟩⟩
    | some d =>
      simp only [Logged.value_pure, List.mem_cons, ih]
      constructor
      · rintro (rfl | hm)
        · exact ⟨Or.inl rfl, by simp [hf]⟩
        · exact ⟨Or.inr hm.1, hm.2⟩
      · rintro ⟨hm, hsome⟩
        exact hm.imp_right fun hm => ⟨hm, hsome⟩

lemma seeks_visitInterface (target : ClassName) :
    h.Seeks (h.visitInterface target) (fun d => d.name = target) h.Supertype where
  stop c hc := by
    rw [visitInterface, if_pos hc]
    rfl
  next c hc := by
    rw [visitInterface, if_neg hc]
    refine ⟨_, rfl, fun d => and_congr_right fun hd => ?_⟩
    have hsome : (h.find? d.name).isSome := by simp [find?_name hd]
    change _ ↔ d.name ∈ (h.declaredInterfaces c.interfaces).value ++ (h.declaredSuperclass c).value
    rw [List.mem_append, mem_declaredInterfaces_iff, mem_declaredSuperclass_iff]
    simp only [hsome, and_true]
    exact or_comm

/-- The search for an interface follows all edges. -/
lemma extendsInterface_eq_true_iff (hc : c ∈ h.classes) (hd : d ∈ h.classes) :
    (h.extendsInterface c d.name).value = true ↔ Relation.ReflTransGen h.Supertype c d := by
  rw [extendsInterface, (seeks_visitInterface d.name).exploreFrom_eq_true_iff hc]
  constructor
  · rintro ⟨e, hpath, hname⟩
    obtain rfl : e = d := eq_of_name_eq (mem_of_supertypes hc hpath) hd hname
    exact hpath
  · intro hpath
    exact ⟨d, hpath, rfl⟩

lemma extendsInterface_iff_derives (hc : c ∈ h.classes) (hd : d ∈ h.classes)
    (hdi : d.isInterface = true) : (h.extendsInterface c d.name).value = true ↔ h.Derives c d := by
  rw [extendsInterface_eq_true_iff hc hd, Derives]
  simp [hdi]

/-- Where superclasses are declared, no chain ends at a missing one. -/
lemma SuperclassesDeclared.chain_ne_missing (hdecl : h.SuperclassesDeclared)
    {barrier : ClassName → Bool} (hc : c ∈ h.classes) (name : ClassName) :
    (h.chain barrier c).2 ≠ .missing name := by
  change (h.ancestors barrier c [c.name]).2 ≠ .missing name
  refine ancestors_induction (h := h)
    (motive := fun c _ r => c ∈ h.classes → r.2 ≠ .missing name) ?_ ?_ ?_ ?_ ?_ c [c.name] hc
  · intro c seen _ _
    simp
  · intro c seen name' hsup hf hc
    exact absurd (hdecl c hc name' hsup) (by simp [hf])
  · intro c seen d _ _ _
    simp
  · intro c seen d _ _ _ _
    simp
  · intro c seen d above reason hcd _ _ ih _
    exact ih hcd.1

/-- Without a barrier a chain holds all that a class extends. -/
lemma mem_full_chain_iff (hc : c ∈ h.classes) :
    d ∈ (h.chain (fun _ => false) c).1 ↔ Relation.ReflTransGen h.Extends c d := by
  rw [mem_chain_iff hc]
  simp only [and_true]

/-- The names on the chain of a class are those of the declarations that it extends. -/
lemma any_chain_eq_true_iff (hc : c ∈ h.classes) (hd : d ∈ h.classes) :
    (h.chain (fun _ => false) c).1.any (·.name == d.name) = true ↔
      Relation.ReflTransGen h.Extends c d := by
  rw [List.any_eq_true]
  constructor
  · rintro ⟨e, he, hname⟩
    have hpath := (mem_full_chain_iff hc).1 he
    have hec : e ∈ h.classes := by
      cases hpath with
      | refl => exact hc
      | tail _ hstep => exact hstep.1
    rwa [← eq_of_name_eq hec hd (by simpa using hname)]
  · intro hpath
    exact ⟨d, (mem_full_chain_iff hc).2 hpath, by simp⟩

/-- Whatever the search for a class finds, it has followed the edges to superclasses. -/
lemma extendsClass_found_iff {found : Bool} (hc : c ∈ h.classes) (hd : d ∈ h.classes)
    (hok : (h.extendsClass c d.name).outcome.value = .ok found) :
    found = true ↔ Relation.ReflTransGen h.Extends c d := by
  rw [← any_chain_eq_true_iff hc hd]
  rw [extendsClass] at hok
  dsimp only at hok
  by_cases hany : (h.chain (fun _ => false) c).1.any (·.name == d.name) = true
  · rw [if_pos hany] at hok
    obtain rfl : true = found := by simpa using hok
    exact iff_of_true rfl hany
  · rw [if_neg hany] at hok
    refine iff_of_false ?_ hany
    rintro rfl
    cases hreason : (h.chain (fun _ => false) c).2 with
    | top => exact absurd hok (by rw [hreason]; simp)
    | missing name =>
      rw [hreason] at hok
      cases hok
    | cycle =>
      rw [hreason] at hok
      cases hok

/-- The search for a class ends where superclasses are declared. -/
lemma outcome_extendsClass (hdecl : h.SuperclassesDeclared) (hc : c ∈ h.classes)
    (hd : d ∈ h.classes) :
    ∃ found, (h.extendsClass c d.name).outcome.value = .ok found ∧
      (found = true ↔ Relation.ReflTransGen h.Extends c d) := by
  have hends : ∃ found, (h.extendsClass c d.name).outcome.value = .ok found := by
    rw [extendsClass]
    dsimp only
    split
    · exact ⟨true, rfl⟩
    · cases hreason : (h.chain (fun _ => false) c).2 with
      | top => exact ⟨false, rfl⟩
      | missing name => exact absurd hreason (hdecl.chain_ne_missing hc name)
      | cycle => exact ⟨false, rfl⟩
  obtain ⟨found, hok⟩ := hends
  exact ⟨found, hok, extendsClass_found_iff hc hd hok⟩

/-! ### The merges in both orders -/

variable {lenient : Bool} {s t : Ty} {x y : Except Failure Ty}

/-- What merging `s` with `t` and `t` with `s` may give: the one that is below the other, or failures that mirror each
other. -/
inductive Merged (h : Hierarchy) (s t : Ty) : Except Failure Ty → Except Failure Ty → Prop
  | left : h.Below s t → h.Merged s t (.ok s) (.ok s)
  | right : h.Below t s → h.Merged s t (.ok t) (.ok t)
  | neither (reason : Mismatch) (left right : Ty) : ¬ h.Below s t → ¬ h.Below t s →
    h.Merged s t (.error (.incompatible reason left right)) (.error (.incompatible reason right left))

lemma Merged.symm (hm : h.Merged s t x y) : h.Merged t s y x := by
  cases hm with
  | left hst => exact Merged.right hst
  | right hts => exact Merged.left hts
  | neither reason left right hst hts => exact Merged.neither reason right left hts hst

lemma below_object_iff {m n : ClassName} :
    h.Below (.object m) (.object n) ↔ h.NameBelow m n := by
  refine ⟨fun hmn => ?_, Below.object⟩
  cases hmn with
  | object hmn => exact hmn

lemma below_array_iff : h.Below (.array s) (.array t) ↔ h.Below s t := by
  refine ⟨fun hst => ?_, Below.array⟩
  cases hst with
  | array hst => exact hst

/-- Two tests that decide the order, asked in either order. -/
lemma Merged.of_tests (reason : Mismatch) {p q : Bool} (hp : p = true ↔ h.Below s t)
    (hq : q = true ↔ h.Below t s) (hpq : p = true → q = true → False) :
    h.Merged s t (if p then .ok s else if q then .ok t else .error (.incompatible reason s t))
      (if q then .ok t else if p then .ok s else .error (.incompatible reason t s)) := by
  cases p with
  | true =>
    have hqf : ¬ q = true := hpq rfl
    rw [if_pos rfl, if_neg hqf, if_pos rfl]
    exact Merged.left (hp.1 rfl)
  | false =>
    have hst : ¬ h.Below s t := fun hst => absurd (hp.2 hst) (by simp)
    cases q with
    | true => exact Merged.right (hq.1 rfl)
    | false => exact Merged.neither reason s t hst fun hts => absurd (hq.2 hts) (by simp)

/-! ### Merging declarations -/

lemma outcome_mergeDeclared_interfaces (hc : c.isInterface = true) (hd : d.isInterface = true) :
    (h.mergeDeclared c d).outcome.value =
      if (h.extendsInterface c d.name).value then .ok (.object c.name)
      else if (h.extendsInterface d c.name).value then .ok (.object d.name)
      else .error (.incompatible .unrelatedInterfaces (.object c.name) (.object d.name)) := by
  simp only [mergeDeclared, hc, hd, Attempt.value_outcome_lift_bind]
  split
  · rfl
  · rw [Attempt.value_outcome_lift_bind]
    split <;> rfl

lemma outcome_mergeDeclared_interface_class (hc : c.isInterface = true) (hd : d.isInterface = false) :
    (h.mergeDeclared c d).outcome.value =
      if (h.extendsInterface d c.name).value then .ok (.object d.name)
      else .error (.incompatible .notImplemented (.object c.name) (.object d.name)) := by
  simp only [mergeDeclared, hc, hd, Attempt.value_outcome_lift_bind]
  split <;> rfl

lemma outcome_mergeDeclared_class_interface (hc : c.isInterface = false) (hd : d.isInterface = true) :
    (h.mergeDeclared c d).outcome.value =
      if (h.extendsInterface c d.name).value then .ok (.object c.name)
      else .error (.incompatible .notImplemented (.object c.name) (.object d.name)) := by
  simp only [mergeDeclared, hc, hd, Attempt.value_outcome_lift_bind]
  split <;> rfl

lemma outcome_mergeDeclared_classes {p q : Bool} (hc : c.isInterface = false)
    (hd : d.isInterface = false) (hp : (h.extendsClass c d.name).outcome.value = .ok p)
    (hq : (h.extendsClass d c.name).outcome.value = .ok q) :
    (h.mergeDeclared c d).outcome.value =
      if p then .ok (.object c.name)
      else if q then .ok (.object d.name)
      else .error (.incompatible .unrelatedClasses (.object c.name) (.object d.name)) := by
  simp only [mergeDeclared, hc, hd]
  rw [Attempt.value_outcome_bind_of_ok hp]
  split
  · rfl
  · rw [Attempt.value_outcome_bind_of_ok hq]
    split <;> rfl

/-- Two declarations below the top: the tests of the merge decide which of them is below the other. -/
lemma merged_mergeDeclared (hacyclic : h.Acyclic) (hdecl : h.SuperclassesDeclared)
    (hc : c ∈ h.classes) (hd : d ∈ h.classes) (hne : c.name ≠ d.name) (hctop : ¬ IsTop c.name)
    (hdtop : ¬ IsTop d.name) :
    h.Merged (.object c.name) (.object d.name) (h.mergeDeclared c d).outcome.value
      (h.mergeDeclared d c).outcome.value := by
  have hcd : h.Below (.object c.name) (.object d.name) ↔ h.Derives c d := by
    rw [below_object_iff, nameBelow_iff_derives hc hd hne hctop hdtop]
  have hdc : h.Below (.object d.name) (.object c.name) ↔ h.Derives d c := by
    rw [below_object_iff, nameBelow_iff_derives hd hc hne.symm hdtop hctop]
  -- the tests are made in the order of the operands, so it matters that they cannot both succeed
  have hexcl : h.Derives c d → h.Derives d c → False := fun h₁ h₂ =>
    hne (congrArg ClassDecl.name (hacyclic.eq_of_derives hc h₁ h₂))
  have htests : ∀ (reason : Mismatch) {p q : Bool}, (p = true ↔ h.Derives c d) →
      (q = true ↔ h.Derives d c) → h.Merged (.object c.name) (.object d.name) _ _ :=
    fun reason _ _ hp hq => Merged.of_tests reason (hp.trans hcd.symm) (hq.trans hdc.symm)
      fun h₁ h₂ => hexcl (hp.1 h₁) (hq.1 h₂)
  cases hci : c.isInterface with
  | true =>
    cases hdi : d.isInterface with
    | true =>
      rw [outcome_mergeDeclared_interfaces hci hdi, outcome_mergeDeclared_interfaces hdi hci]
      exact htests _ (extendsInterface_iff_derives hc hd hdi) (extendsInterface_iff_derives hd hc hci)
    | false =>
      -- an interface is never below a class
      have hp : false = true ↔ h.Derives c d := by simp [Derives, hci, hdi]
      rw [outcome_mergeDeclared_interface_class hci hdi, outcome_mergeDeclared_class_interface hdi hci]
      exact htests .notImplemented hp (extendsInterface_iff_derives hd hc hci)
  | false =>
    cases hdi : d.isInterface with
    | true =>
      have hq : false = true ↔ h.Derives d c := by simp [Derives, hci, hdi]
      rw [outcome_mergeDeclared_class_interface hci hdi, outcome_mergeDeclared_interface_class hdi hci]
      exact htests .notImplemented (extendsInterface_iff_derives hc hd hdi) hq
    | false =>
      obtain ⟨p, hpo, hp⟩ := outcome_extendsClass hdecl hc hd
      obtain ⟨q, hqo, hq⟩ := outcome_extendsClass hdecl hd hc
      rw [outcome_mergeDeclared_classes hci hdi hpo hqo, outcome_mergeDeclared_classes hdi hci hqo hpo]
      exact htests _ (by simp [hp, Derives, hci, hdi]) (by simp [hq, Derives, hci, hdi])

/-- Two classes by name, declared and below the top. -/
lemma merged_mergeClasses (hacyclic : h.Acyclic) (hdecl : h.SuperclassesDeclared) {m n : ClassName}
    (hm : (h.find? m).isSome) (hn : (h.find? n).isSome) (hmtop : ¬ IsTop m) (hntop : ¬ IsTop n) :
    h.Merged (.object m) (.object n) (h.mergeClasses lenient m n).outcome.value
      (h.mergeClasses lenient n m).outcome.value := by
  obtain ⟨c, hcf⟩ := Option.isSome_iff_exists.1 hm
  obtain ⟨d, hdf⟩ := Option.isSome_iff_exists.1 hn
  obtain ⟨hc, rfl⟩ := find?_eq_some_iff.1 hcf
  obtain ⟨hd, rfl⟩ := find?_eq_some_iff.1 hdf
  simp only [mergeClasses, hcf, hdf]
  by_cases hne : c.name = d.name
  · rw [if_pos hne, if_pos hne.symm, hne]
    exact Merged.left (Below.object (Or.inl rfl))
  · rw [if_neg hne, if_neg (Ne.symm hne)]
    exact merged_mergeDeclared hacyclic hdecl hc hd hne hmtop hntop

/-! ### Merging types -/

lemma Known.isReference (ht : h.Known t) : t.isReference = true := by
  cases ht <;> rfl

lemma isVoid_of_isReference (ht : t.isReference = true) : t.isVoid = false := by
  cases t with
  | void => exact absurd ht (by decide)
  | _ => rfl

lemma className?_eq_some_iff {name : ClassName} : t.className? = some name ↔ t = .object name := by
  cases t <;> simp [Ty.className?]

/-- Merges two references that are not at the top. -/
def mergeShapes (h : Hierarchy) (lenient : Bool) : Ty → Ty → Attempt Ty
  | .array s, .array t => do
    let component ← h.mergeErased lenient s t
    pure (.array component)
  | .object m, .object n => h.mergeClasses lenient m n
  | s, t => throw (.incompatible (if s.isArray || t.isArray then .arrayShape else .referenceShape) s t)

/-- The rules for two references: the classes at the top come first, the root class before the marker. -/
lemma mergeErased_references (hs : s.isReference = true) (ht : t.isReference = true) :
    h.mergeErased lenient s t =
      if s = .object rootClass then pure t
      else if t = .object rootClass then pure s
      else if s = .object serializable then pure t
      else if t = .object serializable then pure s
      else h.mergeShapes lenient s t := by
  rw [mergeErased.eq_def, mergeShapes.eq_def]
  simp only [isVoid_of_isReference hs, isVoid_of_isReference ht, hs, ht, className?_eq_some_iff]
  rfl

lemma mergeErased_root_left (ht : t.isReference = true) :
    h.mergeErased lenient (.object rootClass) t = pure t := by
  rw [mergeErased_references rfl ht, if_pos rfl]

lemma mergeErased_root_right (hs : s.isReference = true) :
    h.mergeErased lenient s (.object rootClass) = pure s := by
  rw [mergeErased_references hs rfl]
  split
  · rename_i hroot
    rw [hroot]
  · rw [if_pos rfl]

lemma mergeErased_serializable_left (ht : t.isReference = true) (hroot : t ≠ .object rootClass) :
    h.mergeErased lenient (.object serializable) t = pure t := by
  have hne : Ty.object serializable ≠ .object rootClass := by decide
  rw [mergeErased_references rfl ht, if_neg hne, if_neg hroot, if_pos rfl]

lemma mergeErased_serializable_right (hs : s.isReference = true) (hroot : s ≠ .object rootClass) :
    h.mergeErased lenient s (.object serializable) = pure s := by
  have hne : Ty.object serializable ≠ .object rootClass := by decide
  rw [mergeErased_references hs rfl, if_neg hroot, if_neg hne]
  split
  · rename_i hser
    rw [hser]
  · rw [if_pos rfl]

/-- One of the two classes at the top. -/
def TopType (t : Ty) : Prop := t = .object rootClass ∨ t = .object serializable

lemma topType_object_iff {m : ClassName} : TopType (.object m) ↔ IsTop m := by
  simp [TopType, IsTop]

lemma not_topType_array (t : Ty) : ¬ TopType (.array t) := by
  simp [TopType]

/-- Below the top, arrays are merged with arrays and classes with classes. -/
lemma mergeErased_below_top (hs : s.isReference = true) (ht : t.isReference = true)
    (hstop : ¬ TopType s) (httop : ¬ TopType t) :
    h.mergeErased lenient s t = h.mergeShapes lenient s t := by
  obtain ⟨hsr, hss⟩ := not_or.1 hstop
  obtain ⟨htr, hts⟩ := not_or.1 httop
  rw [mergeErased_references hs ht, if_neg hsr, if_neg htr, if_neg hss, if_neg hts]

lemma below_of_isTop {n : ClassName} (hs : h.Known s) (hroot : s ≠ .object rootClass)
    (hn : IsTop n) : h.Below s (.object n) := by
  cases hs with
  | array _ => exact Below.arrayTop hn
  | object _ => exact Below.object (nameBelow_of_isTop (fun hm => hroot (congrArg Ty.object hm)) hn)

/-- A class at the top gives way to every other type. -/
lemma merged_of_isTop {m : ClassName} (hm : IsTop m) (ht : h.Known t) :
    h.Merged (.object m) t (h.mergeErased lenient (.object m) t).outcome.value
      (h.mergeErased lenient t (.object m)).outcome.value := by
  have hmk : h.Known (.object m) := Known.object (Or.inl hm)
  by_cases hroot : t = .object rootClass
  · -- the one case in which the type at hand is the more derived one
    subst hroot
    rw [mergeErased_root_right rfl, mergeErased_root_left rfl]
    exact Merged.left (Below.object (Or.inr (Or.inl rfl)))
  have hbelow : h.Below t (.object m) := below_of_isTop ht hroot hm
  rcases hm with rfl | rfl
  · rw [mergeErased_root_left ht.isReference, mergeErased_root_right ht.isReference]
    exact Merged.right hbelow
  · rw [mergeErased_serializable_left ht.isReference hroot, mergeErased_serializable_right ht.isReference hroot]
    exact Merged.right hbelow

lemma mergeErased_objects {m n : ClassName} (hm : ¬ IsTop m) (hn : ¬ IsTop n) :
    h.mergeErased lenient (.object m) (.object n) = h.mergeClasses lenient m n :=
  mergeErased_below_top rfl rfl (mt topType_object_iff.1 hm) (mt topType_object_iff.1 hn)

lemma mergeErased_arrays (s t : Ty) :
    h.mergeErased lenient (.array s) (.array t) =
      (h.mergeErased lenient s t >>= fun component => pure (.array component)) :=
  mergeErased_below_top rfl rfl (not_topType_array s) (not_topType_array t)

/-- An array and a class below the top do not go together. -/
lemma merged_object_array {m : ClassName} (hm : ¬ IsTop m) (t : Ty) :
    h.Merged (.object m) (.array t) (h.mergeErased lenient (.object m) (.array t)).outcome.value
      (h.mergeErased lenient (.array t) (.object m)).outcome.value := by
  have hmtop : ¬ TopType (.object m) := mt topType_object_iff.1 hm
  rw [mergeErased_below_top rfl rfl hmtop (not_topType_array t),
    mergeErased_below_top rfl rfl (not_topType_array t) hmtop]
  refine Merged.neither .arrayShape (.object m) (.array t) ?_ ?_
  · intro hbelow
    cases hbelow
  · intro hbelow
    cases hbelow with
    | arrayTop hm' => exact hm hm'

/-- Arrays are merged as their components are. -/
lemma merged_array (hm : h.Merged s t (h.mergeErased lenient s t).outcome.value
      (h.mergeErased lenient t s).outcome.value) :
    h.Merged (.array s) (.array t) (h.mergeErased lenient (.array s) (.array t)).outcome.value
      (h.mergeErased lenient (.array t) (.array s)).outcome.value := by
  rw [mergeErased_arrays, mergeErased_arrays]
  -- a failure of the components is passed on as it is
  generalize hx : (h.mergeErased lenient s t).outcome.value = x at hm
  generalize hy : (h.mergeErased lenient t s).outcome.value = y at hm
  cases hm with
  | left hst =>
    rw [Attempt.value_outcome_bind_of_ok hx, Attempt.value_outcome_bind_of_ok hy]
    exact Merged.left (Below.array hst)
  | right hts =>
    rw [Attempt.value_outcome_bind_of_ok hx, Attempt.value_outcome_bind_of_ok hy]
    exact Merged.right (Below.array hts)
  | neither reason left right hst hts =>
    rw [Attempt.value_outcome_bind_of_error hx, Attempt.value_outcome_bind_of_error hy]
    exact Merged.neither reason left right (fun hb => hst (below_array_iff.1 hb))
      fun hb => hts (below_array_iff.1 hb)

/-- **Types without variables.**  The induction is on the array dimensions of `s`. -/
lemma merged_mergeErased (hacyclic : h.Acyclic) (hdecl : h.SuperclassesDeclared) (hs : h.Known s)
    (ht : h.Known t) :
    h.Merged s t (h.mergeErased lenient s t).outcome.value (h.mergeErased lenient t s).outcome.value := by
  induction hs generalizing t with
  | @object m hm =>
    by_cases hmtop : IsTop m
    · exact merged_of_isTop hmtop ht
    cases ht with
    | @object n hn =>
      by_cases hntop : IsTop n
      · exact (merged_of_isTop hntop (Known.object hm)).symm
      · rw [mergeErased_objects hmtop hntop, mergeErased_objects hntop hmtop]
        exact merged_mergeClasses hacyclic hdecl (hm.resolve_left hmtop) (hn.resolve_left hntop)
          hmtop hntop
    | array _ => exact merged_object_array hmtop _
  | @array component hs ih =>
    cases ht with
    | @object n hn =>
      by_cases hntop : IsTop n
      · exact (merged_of_isTop hntop (Known.array hs)).symm
      · exact (merged_object_array hntop _).symm
    | array ht => exact merged_array (ih ht)

/-! ### The main result -/

/-- **Merging returns the more derived type.**  In a hierarchy without cycles whose superclasses are declared, `Below`
is a partial order of the known types, a merge returns the type that is below the other and fails if neither is, and
the order of the two types matters only for the order in which a failure names them. -/
theorem merge_more_derived (h : Hierarchy) (hacyclic : h.Acyclic) (hdecl : h.SuperclassesDeclared)
    (lenient : Bool) :
    ((∀ t, h.Known t → h.Below t t) ∧ (∀ s t u, h.Below s t → h.Below t u → h.Below s u) ∧
      ∀ s t, h.Below s t → h.Below t s → s = t) ∧
    ∀ a b : Ty, h.Known a.erased → h.Known b.erased →
      (h.Below a.erased b.erased → (h.merge lenient a b).outcome.value = .ok a.erased) ∧
      (h.Below b.erased a.erased → (h.merge lenient a b).outcome.value = .ok b.erased) ∧
      (¬ h.Below a.erased b.erased → ¬ h.Below b.erased a.erased → ∃ reason left right,
        (h.merge lenient a b).outcome.value = .error (.incompatible reason left right)) ∧
      ((∃ t, (h.merge lenient a b).outcome.value = .ok t ∧
          (h.merge lenient b a).outcome.value = .ok t) ∨
        ∃ reason left right,
          (h.merge lenient a b).outcome.value = .error (.incompatible reason left right) ∧
          (h.merge lenient b a).outcome.value = .error (.incompatible reason right left)) := by
  refine ⟨⟨fun t => Below.refl, fun s t u => Below.trans, fun s t => Below.antisymm hacyclic⟩, ?_⟩
  intro a b ha hb
  have hm : h.Merged a.erased b.erased (h.merge lenient a b).outcome.value
      (h.merge lenient b a).outcome.value := merged_mergeErased hacyclic hdecl ha hb
  generalize (h.merge lenient a b).outcome.value = x at hm
  generalize (h.merge lenient b a).outcome.value = y at hm
  cases hm with
  | left hab =>
    refine ⟨fun _ => rfl, fun hba => ?_, fun hnab => absurd hab hnab, Or.inl ⟨_, rfl, rfl⟩⟩
    rw [hab.antisymm hacyclic hba]
  | right hba =>
    refine ⟨fun hab => ?_, fun _ => rfl, fun _ hnba => absurd hba hnba, Or.inl ⟨_, rfl, rfl⟩⟩
    rw [hba.antisymm hacyclic hab]
  | neither reason left right hnab hnba =>
    exact ⟨fun hab => absurd hab hnab, fun hba => absurd hba hnba, fun _ _ => ⟨reason, left, right, rfl⟩,
      Or.inr ⟨reason, left, right, rfl, rfl⟩⟩

def shape : ClassDecl := ⟨"a.Shape", .interface ||| .abstract, none, [], .topLevel, []⟩

def figure : ClassDecl := ⟨"a.Figure", .abstract, none, ["a.Shape"], .topLevel, []⟩

def circle : ClassDecl := ⟨"a.Circle", 0, some "a.Figure", [], .topLevel, []⟩

/-- An interface, a class that implements it, and a subclass of that. -/
def shapes : Hierarchy := (ofList [shape, figure, circle]).value

/-- An array of a variable bounded by the subclass, and an array of the interface. -/
theorem merge_shapes :
    shapes.Acyclic ∧ shapes.SuperclassesDeclared ∧
      shapes.Known (Ty.array (.typeVar [.object "a.Circle"])).erased ∧
      shapes.Known (Ty.array (.object "a.Shape")).erased ∧
      (shapes.merge false (.array (.typeVar [.object "a.Circle"])) (.array (.object "a.Shape"))).outcome.value =
        .ok (.array (.object "a.Circle")) ∧
      (shapes.merge false (.array (.object "a.Shape")) (.array (.typeVar [.object "a.Circle"]))).outcome.value =
        .ok (.array (.object "a.Circle")) := by
  have hacyclic : shapes.Acyclic :=
    acyclic_of_rank (fun name => if name = "a.Circle" then 2 else if name = "a.Figure" then 1 else 0)
      (by decide)
  have hdecl : shapes.SuperclassesDeclared := by
    have hall : ∀ c ∈ shapes.classes, c.superName.all fun name => (shapes.find? name).isSome := by decide
    intro c hc name hsup
    have hc := hall c hc
    rwa [hsup] at hc
  have hcircle : shapes.Known (Ty.array (.typeVar [.object "a.Circle"])).erased :=
    Known.array (Known.object (Or.inr (by decide)))
  have hshape : shapes.Known (Ty.array (.object "a.Shape")).erased :=
    Known.array (Known.object (Or.inr (by decide)))
  have hpath : Relation.ReflTransGen shapes.Supertype circle shape :=
    Relation.ReflTransGen.head ⟨by decide, Or.inl rfl⟩
      (Relation.ReflTransGen.single (a := figure) ⟨by decide, Or.inr (by decide)⟩)
  have hbelow : shapes.Below (Ty.array (.typeVar [.object "a.Circle"])).erased
      (Ty.array (.object "a.Shape")).erased :=
    Below.array (Below.object (Or.inr (Or.inr (Or.inr ⟨by decide, by decide, circle, by decide, shape,
      by decide, rfl, rfl, Or.inl ⟨by decide, hpath⟩⟩))))
  obtain ⟨-, hmerge⟩ := merge_more_derived shapes hacyclic hdecl false
  exact ⟨hacyclic, hdecl, hcircle, hshape, (hmerge _ _ hcircle hshape).1 hbelow,
    (hmerge _ _ hshape hcircle).2.1 hbelow⟩

end Hierarchy

end CallTargets
