import CallTargets.Dispatch.Matching
import CallTargets.Proofs.Types.OuterInstance

/-!
# Matching methods by their types

A class declares a call if one of its methods has the signature of the call, and signatures are compared as texts.  For
types that can be written and read back the text determines the types (`MethodType.text_inj`), so what is compared is
the types after erasure.

* `Resolver.accepts` is the comparison of texts, `Resolver.Fits` that of types, and `accepts_iff_fits` says that they agree.
* `value_declaresAmong`: the methods of a class are gone through until one is accepted.
* `declares_iff_types` is the main result: which calls a class declares, by the types of its methods alone.
-/

namespace CallTargets

/-! ### Texts and types -/

/-- A method descriptor determines the types. -/
lemma MethodType.text_inj {s t : MethodType} (hs : s.Describable) (ht : t.Describable) : s.text = t.text ↔ s = t := by
  constructor
  · intro htext
    have hread : Descriptor.parseMethod s.text = .ok t := htext ▸ Descriptor.parseMethod_text ht
    exact Except.ok.inj ((Descriptor.parseMethod_text hs).symm.trans hread)
  · rintro rfl
    rfl

namespace MethodDecl

variable {m : MethodDecl} {c : ClassDecl} {outer : ClassName}

/-- The erased types of a constructor with an instance of `outer` in front of its parameters. -/
def outerType (m : MethodDecl) (outer : ClassName) : MethodType :=
  ⟨.object outer :: m.erasedType.params, m.erasedType.result⟩

lemma describable_outerType (hm : m.erasedType.Describable) (houter : PlainName outer) :
    (m.outerType outer).Describable :=
  ⟨List.forall_mem_cons.2 ⟨⟨.object houter, Nat.zero_le _⟩, hm.params⟩, hm.result⟩

/-- With the enclosing instance in front a signature is that of a method with one parameter more. -/
lemma outerSignature_eq_text (hm : m.Bounded) (hmissing : m.missingOuter? c = some outer) :
    (m.outerSignature c).value = (m.outerType outer).text := by
  let longer : MethodDecl := { m with params := .object outer :: m.params }
  have hbounded : longer.Bounded := ⟨List.forall_mem_cons.2 ⟨rfl, hm.params⟩, hm.result⟩
  have hlonger : (m.outerSignature c).value = longer.signature.value := by
    rw [outerSignature, hmissing]
    rfl
  rw [hlonger, signature_eq_text hbounded]
  rfl

end MethodDecl

namespace Resolver

variable {r : Resolver} {site : CallSite} {c : ClassDecl} {m : MethodDecl} {type : MethodType}

/-! ### One method -/

/-- Whether a method of the class `c` is meant by a call: it takes a variable number of arguments, or one of its signatures
is that of the call. -/
def accepts (r : Resolver) (site : CallSite) (c : ClassDecl) (m : MethodDecl) : Bool :=
  r.policy.varargsByName && m.isVarargs || m.signature.value == site.signature ||
    r.policy.innerConstructorFix && m.isConstructor && (m.outerSignature c).value == site.signature

/-- The same by types: the erased types of the method are `type`, or they are so with the enclosing instance that is
missing in front of the parameters. -/
def Fits (r : Resolver) (type : MethodType) (c : ClassDecl) (m : MethodDecl) : Prop :=
  r.policy.varargsByName = true ∧ m.isVarargs = true ∨
    m.erasedType = type ∨
    r.policy.innerConstructorFix = true ∧ ∃ outer, m.TakesOuter c outer ∧
      (∀ t ∈ m.params.head?, t.peeled ≠ .object outer) ∧ m.outerType outer = type

/-- The second attempt at a constructor succeeds where the first one fails only if the enclosing instance is missing. -/
lemma accepts_iff_fits (hsite : site.signature = type.text) (htype : type.Describable)
    (hm : m.erasedType.Describable) (hbounded : m.Bounded)
    (houter : ∀ outer, c.enclosing? = some outer → PlainName outer) :
    r.accepts site c m = true ↔ r.Fits type c m := by
  have htests : r.accepts site c m = true ↔
      (r.policy.varargsByName = true ∧ m.isVarargs = true) ∨ m.signature.value = site.signature ∨
        r.policy.innerConstructorFix = true ∧ m.isConstructor = true ∧
          (m.outerSignature c).value = site.signature := by
    simp only [accepts, Bool.or_eq_true, Bool.and_eq_true, beq_iff_eq, or_assoc, and_assoc]
  rw [htests]
  have hplain : m.signature.value = site.signature ↔ m.erasedType = type := by
    rw [hsite, MethodDecl.signature_eq_text hbounded, MethodType.text_inj hm htype]
  refine or_congr_right ?_
  rw [hplain]
  constructor
  · rintro (hfirst | ⟨hfix, -, hsecond⟩)
    · exact Or.inl hfirst
    · cases hmissing : m.missingOuter? c with
      | none =>
        rw [MethodDecl.outerSignature_of_none hmissing, hplain] at hsecond
        exact Or.inl hsecond
      | some outer =>
        obtain ⟨htakes, hopens⟩ := MethodDecl.missingOuter?_eq_some_iff.1 hmissing
        have htypes := MethodDecl.describable_outerType hm (houter outer htakes.enclosing)
        rw [MethodDecl.outerSignature_eq_text hbounded hmissing, hsite, MethodType.text_inj htypes htype] at hsecond
        exact Or.inr ⟨hfix, outer, htakes, hopens, hsecond⟩
  · rintro (hfirst | ⟨hfix, outer, htakes, hopens, rfl⟩)
    · exact Or.inl hfirst
    · have hmissing := MethodDecl.missingOuter?_eq_some_iff.2 ⟨htakes, hopens⟩
      exact Or.inr ⟨hfix, htakes.isConstructor, by rw [MethodDecl.outerSignature_eq_text hbounded hmissing, hsite]⟩

/-! ### All methods of a class -/

/-- The methods are gone through until one is accepted; those without a body are passed over. -/
lemma value_declaresAmong (ms : List MethodDecl) :
    (r.declaresAmong site c ms).value = ms.any fun m => !m.isAbstract && r.accepts site c m := by
  induction ms with
  | nil => rfl
  | cons m ms ih =>
    rw [declaresAmong, List.any_cons, ← ih, accepts]
    cases m.isAbstract with
    | true => rfl
    | false =>
      cases r.policy.varargsByName && m.isVarargs with
      | true => rfl
      | false =>
        rw [if_neg (by simp), if_neg (by simp), Logged.value_bind]
        cases m.signature.value == site.signature with
        | true => rfl
        | false =>
          rw [if_neg (by simp), Logged.value_bind]
          rw [Bool.and_comm r.policy.innerConstructorFix]
          cases m.isConstructor && r.policy.innerConstructorFix with
          | false => rfl
          | true =>
            rw [if_pos rfl, Logged.value_bind]
            cases (m.outerSignature c).value == site.signature with
            | true => rfl
            | false => rfl

/-- **Which calls a class declares.**  A call with the types `type` is declared by a class exactly if one of its methods has
a body, the name of the call, and either a variable number of arguments, where the policy matches those by name, or just
these types after erasure; a constructor also if the enclosing instance is missing from its parameters and these are its
types with that instance in front. -/
theorem declares_iff_types (r : Resolver) (site : CallSite) (c : ClassDecl) (type : MethodType)
    (hsite : site.signature = type.text) (htype : type.Describable)
    (hmethods : ∀ m ∈ c.methods, m.erasedType.Describable ∧ m.Bounded)
    (houter : ∀ outer, c.enclosing? = some outer → PlainName outer) :
    (r.declares site c).value = true ↔
      ∃ m ∈ c.methods, m.name = site.name ∧ m.isAbstract = false ∧
        (r.policy.varargsByName = true ∧ m.isVarargs = true ∨
          m.erasedType = type ∨
          r.policy.innerConstructorFix = true ∧ ∃ outer, m.TakesOuter c outer ∧
            (∀ t ∈ m.params.head?, t.peeled ≠ .object outer) ∧
            type = ⟨.object outer :: m.erasedType.params, m.erasedType.result⟩) := by
  rw [declares, value_declaresAmong, List.any_eq_true]
  refine exists_congr fun m => ?_
  rw [ClassDecl.methodsNamed, List.mem_filter, beq_iff_eq, and_assoc, Bool.and_eq_true, Bool.not_eq_true']
  refine and_congr_right fun hm => and_congr_right fun _ => and_congr_right fun _ => ?_
  obtain ⟨hdescribable, hbounded⟩ := hmethods m hm
  rw [accepts_iff_fits hsite htype hdescribable hbounded houter, Fits]
  simp only [MethodDecl.outerType, eq_comm (b := type)]

/-! ### A constructor of a member class -/

/-- A member class whose constructor leaves out the enclosing instance. -/
def innerClass : ClassDecl := { MethodDecl.member with methods := [MethodDecl.constructorOf [.prim .int]] }

/-- A call of a constructor with the types `type`. -/
def construction (type : MethodType) : CallSite :=
  ⟨"a.Outer$Inner", MethodDecl.constructorName, type.text, false, none, none⟩

/-- The constructor is meant with and without the enclosing instance, but not with other types. -/
theorem declares_construction :
    let r : Resolver := { hierarchy := (Hierarchy.ofList []).value }
    (construction ⟨[.object "a.Outer", .prim .int], .void⟩).signature = "(La/Outer;I)V" ∧
      (r.declares (construction ⟨[.object "a.Outer", .prim .int], .void⟩) innerClass).value = true ∧
      (r.declares (construction ⟨[.prim .int], .void⟩) innerClass).value = true ∧
      (r.declares (construction ⟨[.prim .long], .void⟩) innerClass).value = false := by
  intro r
  have hname : PlainName "a.Outer" := ⟨by decide, by decide, by decide⟩
  have hint : (Ty.prim .int).IsField := ⟨.prim .int, Nat.zero_le _⟩
  have hlong : (Ty.prim .long).IsField := ⟨.prim .long, Nat.zero_le _⟩
  have hobject : (Ty.object "a.Outer").IsField := ⟨.object hname, Nat.zero_le _⟩
  have hmethods : ∀ m ∈ innerClass.methods, m.erasedType.Describable ∧ m.Bounded := by
    intro m hm
    obtain rfl : m = MethodDecl.constructorOf [.prim .int] := List.mem_singleton.1 hm
    exact ⟨⟨List.forall_mem_singleton.2 hint, Or.inl rfl⟩, ⟨List.forall_mem_singleton.2 rfl, rfl⟩⟩
  have houter : ∀ outer, innerClass.enclosing? = some outer → PlainName outer := by
    intro outer henclosing
    obtain rfl : "a.Outer" = outer := Option.some.inj henclosing
    exact hname
  have hdeclares : ∀ type : MethodType, type.Describable →
      ((r.declares (construction type) innerClass).value = true ↔ _) := fun type htype =>
    declares_iff_types r (construction type) innerClass type rfl htype hmethods houter
  refine ⟨by decide, ?_, ?_, ?_⟩
  · refine (hdeclares _ ⟨List.forall_mem_cons.2 ⟨hobject, List.forall_mem_singleton.2 hint⟩, Or.inl rfl⟩).2 ?_
    exact ⟨_, List.mem_singleton_self _, rfl, by decide,
      Or.inr (Or.inr ⟨rfl, "a.Outer", ⟨by decide, by decide, rfl⟩, by decide, rfl⟩)⟩
  · refine (hdeclares _ ⟨List.forall_mem_singleton.2 hint, Or.inl rfl⟩).2 ?_
    exact ⟨_, List.mem_singleton_self _, rfl, by decide, Or.inr (Or.inl rfl)⟩
  · refine Bool.eq_false_iff.2 fun htrue => ?_
    obtain ⟨m, hm, -, -, hfits⟩ := (hdeclares _ ⟨List.forall_mem_singleton.2 hlong, Or.inl rfl⟩).1 htrue
    obtain rfl : m = MethodDecl.constructorOf [.prim .int] := List.mem_singleton.1 hm
    rcases hfits with ⟨-, hvarargs⟩ | htypes | ⟨-, outer, -, -, htypes⟩
    · exact absurd hvarargs (by decide)
    · cases htypes
    · cases htypes

end Resolver

end CallTargets
