import CallTargets.Proofs.Types.RoundTrip

/-!
# The enclosing instance in a signature

A constructor of a member class takes an instance of the enclosing class as its first argument.
`MethodDecl.outerSignature` puts that parameter in front of those that are declared, unless the first of them is the
enclosing class already.  Whether it is, is not asked of the erased parameter: only one layer of a type variable is
looked through (`Ty.peeled`), while erasure goes on as long as there is a variable.

* `Ty.peeled_eq_object_iff`: one layer shows the class that erasure finds, unless a variable is left below it.
* `MethodDecl.missingOuter?_eq_some_iff`: when the parameter is put in front.
* `MethodDecl.outerSignature_eq_signature_iff`: the signature is left alone exactly if the first parameter erases to the
  enclosing class and no variable is left below the first layer.
* `MethodDecl.nested_variable_repeats_outer`: where one is left, the enclosing class stands twice.
-/

namespace CallTargets

/-! ### One layer of a type variable -/

namespace Ty

/-- The first bound of a variable that has one; any other type is left as it is. -/
def peeled : Ty → Ty
  | typeVar (bound :: _) => bound
  | t => t

/-- Whether the type is a type variable. -/
def isVariable : Ty → Bool
  | typeVar _ | unknown => true
  | void | prim _ | array _ | object _ => false

variable {t : Ty} {name : ClassName}

lemma erased_peeled (t : Ty) : t.peeled.erased = t.erased := by
  cases t with
  | typeVar bounds => cases bounds <;> rfl
  | _ => rfl

/-- A type that is no variable is a class before erasure if it is one afterwards. -/
lemma eq_object_of_erased (ht : t.isVariable = false) (herased : t.erased = .object name) : t = .object name := by
  cases t with
  | object m => exact herased
  | typeVar bounds => exact absurd ht (by simp [isVariable])
  | unknown => exact absurd ht (by simp [isVariable])
  | _ => simp [erased] at herased

/-- One layer shows a class exactly if the type erases to it and no variable is left below that layer. -/
lemma peeled_eq_object_iff :
    t.peeled = .object name ↔ t.erased = .object name ∧ t.peeled.isVariable = false := by
  constructor
  · intro hpeeled
    refine ⟨?_, by rw [hpeeled]; rfl⟩
    rw [← erased_peeled, hpeeled]
    rfl
  · rintro ⟨herased, hvar⟩
    exact eq_object_of_erased hvar ((erased_peeled t).trans herased)

end Ty

namespace MethodDecl

variable {m : MethodDecl} {c : ClassDecl} {outer : ClassName}

/-! ### When the enclosing instance is missing -/

/-- `m` is a constructor of the class `c`, which is a member of `outer` and depends on its instances. -/
structure TakesOuter (m : MethodDecl) (c : ClassDecl) (outer : ClassName) : Prop where
  isConstructor : m.isConstructor = true
  not_static : c.isStatic = false
  enclosing : c.enclosing? = some outer

lemma TakesOuter.unique {other : ClassName} (hother : m.TakesOuter c other) (houter : m.TakesOuter c outer) :
    other = outer :=
  Option.some.inj (hother.enclosing.symm.trans houter.enclosing)

lemma parameterClass?_eq (t : Ty) : parameterClass? t = t.peeled.className? := by
  cases t with
  | typeVar bounds => cases bounds <;> rfl
  | _ => rfl

lemma parameterClass?_eq_some_iff {t : Ty} : parameterClass? t = some outer ↔ t.peeled = .object outer := by
  rw [parameterClass?_eq]
  cases t.peeled <;> simp [Ty.className?]

lemma missingOuter?_eq_some_iff :
    m.missingOuter? c = some outer ↔
      m.TakesOuter c outer ∧ ∀ t ∈ m.params.head?, t.peeled ≠ .object outer := by
  have hfirst : (m.params.head?.bind parameterClass? != some outer) = true ↔
      ∀ t ∈ m.params.head?, t.peeled ≠ .object outer := by
    rw [bne_iff_ne, ne_eq, Option.bind_eq_some_iff]
    simp only [parameterClass?_eq_some_iff, not_exists, not_and, Option.mem_def, ne_eq]
  rw [missingOuter?]
  split
  · rename_i hinner
    obtain ⟨hconstructor, hstatic⟩ := Bool.and_eq_true_iff.1 hinner
    rw [Option.filter_eq_some_iff, hfirst]
    refine and_congr_left fun _ => ⟨fun henclosing => ?_, TakesOuter.enclosing⟩
    exact ⟨hconstructor, by simpa using hstatic, henclosing⟩
  · rename_i hinner
    refine iff_of_false (by simp) fun htakes => hinner ?_
    simp [htakes.1.isConstructor, htakes.1.not_static]

lemma missingOuter?_eq_none_iff (htakes : m.TakesOuter c outer) :
    m.missingOuter? c = none ↔ ∃ t ∈ m.params.head?, t.peeled = .object outer := by
  rw [Option.eq_none_iff_forall_ne_some]
  constructor
  · intro hnone
    by_contra hfirst
    refine hnone outer (missingOuter?_eq_some_iff.2 ⟨htakes, fun t ht hpeeled => hfirst ⟨t, ht, hpeeled⟩⟩)
  · rintro ⟨t, ht, hpeeled⟩ other hmissing
    obtain ⟨hother, hfirst⟩ := missingOuter?_eq_some_iff.1 hmissing
    exact hfirst t ht (hother.unique htakes ▸ hpeeled)

/-! ### The signatures -/

lemma value_signatureAfter (front : List Ty) (m : MethodDecl) :
    (m.signatureAfter front).value =
      String.ofList ('(' :: (front ++ m.params).flatMap Ty.descriptor ++ ')' :: m.result.descriptor) := by
  rw [← Ty.value_encodeAll]
  rfl

lemma outerSignature_of_none (hnone : m.missingOuter? c = none) :
    (m.outerSignature c).value = m.signature.value := by
  rw [outerSignature, hnone]
  rfl

/-- The enclosing instance stands behind the opening parenthesis, in front of all that stands there otherwise. -/
lemma outerSignature_of_some (hsome : m.missingOuter? c = some outer) :
    ∃ rest, m.signature.value = "(" ++ rest ∧
      (m.outerSignature c).value = "(" ++ String.ofList (Ty.object outer).encode.value ++ rest := by
  refine ⟨String.ofList (m.params.flatMap Ty.descriptor ++ ')' :: m.result.descriptor), ?_, ?_⟩
  · rw [signature, value_signatureAfter, ← String.toList_inj]
    simp
  · rw [outerSignature, hsome, value_signatureAfter, ← String.toList_inj]
    simp [Ty.encode]

/-- The parameter in front makes the signature a different one. -/
lemma outerSignature_ne (hsome : m.missingOuter? c = some outer) :
    (m.outerSignature c).value ≠ m.signature.value := by
  obtain ⟨rest, hplain, houter⟩ := outerSignature_of_some hsome
  intro heq
  have hlength := congrArg (fun s : String => s.toList.length) (houter.symm.trans (heq.trans hplain))
  simp only [String.toList_append, String.toList_ofList, List.length_append, Ty.encode, Ty.descriptor,
    List.length_cons] at hlength
  omega

/-- **The enclosing instance is put in front** of the parameters of a constructor of a member class, unless the first
parameter erases to the enclosing class and one layer of a variable is all that erasure has to look through.  The
signatures of other methods are left alone. -/
theorem outerSignature_eq_signature_iff (m : MethodDecl) (c : ClassDecl) :
    (∀ outer, m.TakesOuter c outer →
      ((m.outerSignature c).value = m.signature.value ↔
        ∃ t ∈ m.params.head?, t.erased = .object outer ∧ t.peeled.isVariable = false) ∧
      ((m.outerSignature c).value ≠ m.signature.value → ∃ rest, m.signature.value = "(" ++ rest ∧
        (m.outerSignature c).value = "(" ++ String.ofList (Ty.object outer).encode.value ++ rest)) ∧
    ((∀ outer, ¬ m.TakesOuter c outer) → (m.outerSignature c).value = m.signature.value) := by
  refine ⟨fun outer htakes => ?_, fun hothers => ?_⟩
  · have hnone := missingOuter?_eq_none_iff htakes
    simp only [Ty.peeled_eq_object_iff] at hnone
    rw [← hnone]
    cases hmissing : m.missingOuter? c with
    | none =>
      have hkept := outerSignature_of_none hmissing
      exact ⟨iff_of_true hkept rfl, fun hne => absurd hkept hne⟩
    | some other =>
      obtain ⟨hother, -⟩ := missingOuter?_eq_some_iff.1 hmissing
      obtain rfl := hother.unique htakes
      exact ⟨iff_of_false (outerSignature_ne hmissing) (by simp), fun _ => outerSignature_of_some hmissing⟩
  · refine outerSignature_of_none (Option.eq_none_iff_forall_ne_some.2 fun outer hmissing => ?_)
    exact hothers outer (missingOuter?_eq_some_iff.1 hmissing).1

/-! ### A member class -/

/-- A member of `a.Outer` that depends on its instances. -/
def member : ClassDecl := ⟨"a.Outer$Inner", 0, none, [], .inner "a.Outer", []⟩

/-- A constructor with the parameters `params`. -/
def constructorOf (params : List Ty) : MethodDecl := ⟨constructorName, 0, params, .void⟩

lemma constructorOf_takesOuter (params : List Ty) : (constructorOf params).TakesOuter member "a.Outer" :=
  ⟨beq_self_eq_true _, by decide, rfl⟩

/-- One layer of a variable is looked through, and a constructor without the enclosing instance gets it. -/
theorem outerSignature_member :
    (∀ params, (constructorOf params).TakesOuter member "a.Outer") ∧
      ((constructorOf [.typeVar [.object "a.Outer"]]).outerSignature member).value = "(La/Outer;)V" ∧
      ((constructorOf [.prim .int]).outerSignature member).value = "(La/Outer;I)V" := by
  refine ⟨constructorOf_takesOuter, ?_, ?_⟩
  · obtain ⟨hkept, -⟩ := (outerSignature_eq_signature_iff (constructorOf [.typeVar [.object "a.Outer"]]) member).1
      "a.Outer" (constructorOf_takesOuter _)
    exact (hkept.2 ⟨_, rfl, rfl, rfl⟩).trans (by decide)
  · obtain ⟨hkept, hadded⟩ := (outerSignature_eq_signature_iff (constructorOf [.prim .int]) member).1
      "a.Outer" (constructorOf_takesOuter _)
    obtain ⟨rest, hplain, houter⟩ := hadded fun heq => by
      obtain ⟨t, ht, herased, -⟩ := hkept.1 heq
      obtain rfl : Ty.prim .int = t := Option.some.inj ht
      cases herased
    obtain rfl : "I)V" = rest := by
      have htext : (constructorOf [.prim .int]).signature.value = "(" ++ "I)V" := by decide
      exact (String.append_right_inj "(").1 (htext.symm.trans hplain)
    exact houter.trans (by decide)

/-- A first parameter that erases to the enclosing class through two variables does not count as the enclosing class. -/
theorem nested_variable_repeats_outer :
    (constructorOf [.typeVar [.typeVar [.object "a.Outer"]]]).TakesOuter member "a.Outer" ∧
      (Ty.typeVar [.typeVar [.object "a.Outer"]]).erased = .object "a.Outer" ∧
      (constructorOf [.typeVar [.typeVar [.object "a.Outer"]]]).signature.value = "(La/Outer;)V" ∧
      ((constructorOf [.typeVar [.typeVar [.object "a.Outer"]]]).outerSignature member).value =
        "(La/Outer;La/Outer;)V" :=
  ⟨constructorOf_takesOuter _, by decide, by decide, by decide⟩

end MethodDecl

end CallTargets
