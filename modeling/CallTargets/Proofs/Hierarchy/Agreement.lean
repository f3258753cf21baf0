import CallTargets.Proofs.Merge.MissingSuperclass

/-!
# Queries against the edges and walks along them

Whether a class is below another one can be asked in two ways.  The queries `Hierarchy.subclasses` and
`Hierarchy.implementors` start at the upper end and search against the edges; `Hierarchy.extendsClass`,
`Hierarchy.extendsInterface` and `Hierarchy.hasMarker` start at the lower end and walk along them.

* `hasMarker_eq_true_iff`: the search for a marker follows all edges.
* `Hierarchy.WellKinded`: classes are extended and interfaces are implemented, and above an interface there is no class
  but a root.  Then `WellKinded.reached_cases` says what a walk from a class may come to.
* `queries_agree_with_walks`: subclasses are always found in both ways.  Implementors that a query lists are always
  found by the walks, and in a well-kinded hierarchy the query lists all of them.
-/

namespace CallTargets

namespace Hierarchy

variable {h : Hierarchy} {c d : ClassDecl} {name marker : ClassName}

/-! ### The search for a marker -/

/-- The interfaces of a class are gone through to the end unless the marker is among them. -/
lemma scanInterfaces_cases (names waiting : List ClassName) :
    (marker ∈ names → (h.scanInterfaces marker names waiting).value = none) ∧
      (marker ∉ names → ∃ nodes, (h.scanInterfaces marker names waiting).value = some nodes ∧
        ∀ n, n ∈ nodes ↔ n ∈ names ∧ (h.find? n).isSome ∨ n ∈ waiting) := by
  induction names generalizing waiting with
  | nil =>
    refine ⟨fun hmem => absurd hmem List.not_mem_nil, fun _ => ⟨waiting, rfl, fun n => ?_⟩⟩
    simp
  | cons m names ih =>
    rw [scanInterfaces]
    by_cases hm : m = marker
    · rw [if_pos hm]
      exact ⟨fun _ => rfl, fun hnot => absurd (by simp [hm]) hnot⟩
    · rw [if_neg hm]
      have hmem : marker ∈ m :: names ↔ marker ∈ names := by simp [Ne.symm hm]
      rw [hmem]
      cases hf : h.find? m with
      | none =>
        dsimp only
        rw [Logged.value_bind]
        obtain ⟨hfound, hnodes⟩ := ih waiting
        refine ⟨hfound, fun hnot => ?_⟩
        obtain ⟨nodes, hval, hiff⟩ := hnodes hnot
        refine ⟨nodes, hval, fun n => ?_⟩
        -- the missing name is not the one in question
        have hne : (h.find? n).isSome → n ≠ m := by
          rintro hsome rfl
          exact absurd hsome (by simp [hf])
        rw [hiff n, List.mem_cons]
        refine or_congr_left (and_congr_left fun hsome => ?_)
        exact (or_iff_right (hne hsome)).symm
      | some d =>
        dsimp only
        obtain ⟨hfound, hnodes⟩ := ih (m :: waiting)
        refine ⟨hfound, fun hnot => ?_⟩
        obtain ⟨nodes, hval, hiff⟩ := hnodes hnot
        refine ⟨nodes, hval, fun n => ?_⟩
        have hsome : n = m → (h.find? n).isSome := by
          rintro rfl
          simp [hf]
        rw [hiff n, List.mem_cons, List.mem_cons]
        constructor
        · rintro (⟨hn, hdecl⟩ | hnm | hn)
          · exact Or.inl ⟨Or.inr hn, hdecl⟩
          · exact Or.inl ⟨Or.inl hnm, hsome hnm⟩
          · exact Or.inr hn
        · rintro (⟨hnm | hn, hdecl⟩ | hn)
          · exact Or.inr (Or.inl hnm)
          · exact Or.inl ⟨hn, hdecl⟩
          · exact Or.inr (Or.inr hn)

lemma mem_scanSuperclass_iff :
    name ∈ (h.scanSuperclass c).value ↔ c.superName = some name ∧ (h.find? name).isSome := by
  rw [← mem_declaredSuperclass_iff, scanSuperclass, declaredSuperclass]
  cases c.superName with
  | none => rfl
  | some m =>
    dsimp only
    cases h.find? m with
    | none => rfl
    | some d => rfl

lemma seeks_visitMarker (marker : ClassName) :
    h.Seeks (h.visitMarker marker) (fun d => marker ∈ d.interfaces) h.Supertype where
  stop c hc := by
    have hval := (scanInterfaces_cases (h := h) c.interfaces []).1 hc
    simp only [visitMarker, Logged.value_bind, hval, Logged.value_pure]
  next c hc := by
    obtain ⟨nodes, hval, hiff⟩ := (scanInterfaces_cases (h := h) c.interfaces []).2 hc
    refine ⟨(h.scanSuperclass c).value ++ nodes, ?_, fun d => and_congr_right fun hd => ?_⟩
    · simp only [visitMarker, Logged.value_bind, hval, Logged.value_pure]
    · have hsome : (h.find? d.name).isSome := by simp [find?_name hd]
      rw [List.mem_append, mem_scanSuperclass_iff, hiff]
      simp only [hsome, and_true, List.not_mem_nil, or_false]

/-- The search for a marker follows all edges. -/
lemma hasMarker_eq_true_iff (hc : c ∈ h.classes) :
    (h.hasMarker marker c).value = true ↔
      ∃ d, Relation.ReflTransGen h.Supertype c d ∧ marker ∈ d.interfaces := by
  rw [hasMarker, (seeks_visitMarker marker).exploreFrom_eq_true_iff hc]

/-! ### From queries to walks -/

lemma Refines.supertype (hcd : h.Refines c d) : h.Supertype c d := ⟨hcd.1, Or.inr hcd.2.2⟩

/-- From a class that implements a name, the edges lead to a declaration that has the name among its interfaces. -/
lemma ImplementsName.exists_path (himpl : h.ImplementsName c name) :
    ∃ d, Relation.ReflTransGen h.Supertype c d ∧ name ∈ d.interfaces := by
  obtain ⟨d, hd, -, hcd, n, hn, hspec⟩ := himpl
  have hcd' : Relation.ReflTransGen h.Supertype c d :=
    Relation.ReflTransGen.mono (fun _ _ => Extends.supertype) _ _ hcd
  rcases hspec with rfl | ⟨j, hj, rfl, k, hjk, -, hk⟩
  · exact ⟨d, hcd', hn⟩
  · have hdj : h.Supertype d j := ⟨hj, Or.inr hn⟩
    have hjk' : Relation.ReflTransGen h.Supertype j k :=
      Relation.ReflTransGen.mono (fun _ _ => Refines.supertype) _ _ hjk
    exact ⟨k, (hcd'.tail hdj).trans hjk', hk⟩

lemma extendsInterface_of_mem_implementors (hd : d ∈ h.classes) (hc : c ∈ h.implementors d.name) :
    (h.extendsInterface c d.name).value = true := by
  obtain ⟨hcc, -, himpl⟩ := mem_implementors_name_iff.1 hc
  obtain ⟨e, hce, hde⟩ := himpl.exists_path
  exact (extendsInterface_eq_true_iff hcc hd).2 (hce.tail ⟨hd, Or.inr hde⟩)

lemma hasMarker_of_mem_implementors (hc : c ∈ h.implementors marker) :
    (h.hasMarker marker c).value = true := by
  obtain ⟨hcc, -, himpl⟩ := mem_implementors_name_iff.1 hc
  exact (hasMarker_eq_true_iff hcc).2 himpl.exists_path

/-- Superclasses are found in both directions. -/
lemma mem_subclasses_iff_extendsClass (hc : c ∈ h.classes) (hd : d ∈ h.classes) (hcd : c ≠ d) :
    c ∈ h.subclasses d.name ↔ (h.extendsClass c d.name).outcome.value = .ok true := by
  rw [mem_subclasses_iff hd]
  constructor
  · rintro ⟨-, -, hpath⟩
    exact outcome_extendsClass_of_extends hc hd hpath.to_reflTransGen
  · intro hok
    have hpath := (extendsClass_found_iff hc hd hok).1 rfl
    exact ⟨hc, hcd, (Relation.reflTransGen_iff_eq_or_transGen.1 hpath).resolve_left (Ne.symm hcd)⟩

/-! ### From walks to queries -/

/-- The edges fit the kinds of the declarations, and a class that an interface extends has nothing above it. -/
structure WellKinded (h : Hierarchy) : Prop extends Kinded h where
  root : ∀ c ∈ h.classes, ∀ d ∈ h.classes, c.isInterface = true → c.superName = some d.name →
    d.superName = none ∧ d.interfaces = []

/-- Where a walk from the class `c` may have come to: a superclass, an interface that `c` implements, or a class with
nothing above it. -/
def Reached (h : Hierarchy) (c d : ClassDecl) : Prop :=
  d.isInterface = false ∧ Relation.ReflTransGen h.Extends c d ∨
    d.isInterface = true ∧ h.Implements c d ∨
    d.isInterface = false ∧ d.superName = none ∧ d.interfaces = []

lemma WellKinded.reached_step {e : ClassDecl} (hkind : h.WellKinded) (hd : d ∈ h.classes)
    (hcd : h.Reached c d) (hde : h.Supertype d e) : h.Reached c e := by
  obtain ⟨he, hedge⟩ := hde
  rcases hcd with ⟨hcls, hpath⟩ | ⟨hint, f, hf, hfcls, hcf, j, hj, hjf, hjd⟩ | ⟨-, hsup, hnil⟩
  · rcases hedge with hsup | hmem
    · exact Or.inl ⟨hkind.extended d hd e he hsup, hpath.tail ⟨he, hsup⟩⟩
    · have himpl : h.Implements c e := ⟨d, hd, hcls, hpath, e, he, hmem, Relation.ReflTransGen.refl⟩
      exact Or.inr (Or.inl ⟨hkind.implemented d hd e he hmem, himpl⟩)
  · rcases hedge with hsup | hmem
    · exact Or.inr (Or.inr ⟨hkind.extended d hd e he hsup, hkind.root d hd e he hint hsup⟩)
    · have hje : Relation.ReflTransGen h.Refines j e := hjd.tail ⟨he, hint, hmem⟩
      exact Or.inr (Or.inl ⟨hkind.implemented d hd e he hmem, f, hf, hfcls, hcf, j, hj, hjf, hje⟩)
  · rcases hedge with hsup' | hmem
    · exact absurd (hsup.symm.trans hsup') (by simp)
    · exact absurd hmem (by simp [hnil])

lemma WellKinded.reached_cases (hkind : h.WellKinded) (hc : c ∈ h.classes)
    (hcls : c.isInterface = false) (hcd : Relation.ReflTransGen h.Supertype c d) : h.Reached c d := by
  induction hcd with
  | refl => exact Or.inl ⟨hcls, Relation.ReflTransGen.refl⟩
  | tail hpath hstep ih => exact hkind.reached_step (mem_of_supertypes hc hpath) ih hstep

lemma WellKinded.mem_implementors_of_extendsInterface (hkind : h.WellKinded) (hc : c ∈ h.classes)
    (hd : d ∈ h.classes) (hcls : c.isInterface = false) (hint : d.isInterface = true)
    (hext : (h.extendsInterface c d.name).value = true) : c ∈ h.implementors d.name := by
  have hpath := (extendsInterface_eq_true_iff hc hd).1 hext
  rcases hkind.reached_cases hc hcls hpath with ⟨hdcls, -⟩ | ⟨-, himpl⟩ | ⟨hdcls, -⟩
  · exact absurd (hdcls.symm.trans hint) (by simp)
  · exact (mem_implementors_iff hd).2 ⟨hc, hcls, himpl⟩
  · exact absurd (hdcls.symm.trans hint) (by simp)

lemma WellKinded.mem_implementors_of_hasMarker (hkind : h.WellKinded) (hc : c ∈ h.classes)
    (hcls : c.isInterface = false) (hmark : (h.hasMarker marker c).value = true) :
    c ∈ h.implementors marker := by
  obtain ⟨d, hcd, hmem⟩ := (hasMarker_eq_true_iff hc).1 hmark
  refine mem_implementors_name_iff.2 ⟨hc, hcls, ?_⟩
  rcases hkind.reached_cases hc hcls hcd with ⟨hdcls, hpath⟩ | ⟨hint, himpl⟩ | ⟨-, -, hnil⟩
  · exact ⟨d, mem_of_supertypes hc hcd, hdcls, hpath, marker, hmem, Or.inl rfl⟩
  · obtain ⟨e, he, hecls, hce, j, hj, hje, hjd⟩ := himpl
    exact ⟨e, he, hecls, hce, j.name, hje, Or.inr ⟨j, hj, rfl, d, hjd, hint, hmem⟩⟩
  · exact absurd hmem (by simp [hnil])

/-! ### Both directions -/

/-- **Queries and walks agree.**  A class is listed among the subclasses of another one exactly if the walk to that one
succeeds.  The implementors that are listed have the interface or marker above them, and in a well-kinded hierarchy no
class that has it above it is missing. -/
theorem queries_agree_with_walks (cs : List ClassDecl) :
    let h := (ofList cs).value
    (∀ b ∈ h.classes, ∀ c ∈ h.classes, c ≠ b →
      (c ∈ h.subclasses b.name ↔ (h.extendsClass c b.name).outcome.value = .ok true)) ∧
    (∀ i ∈ h.classes, ∀ c ∈ h.implementors i.name, (h.extendsInterface c i.name).value = true) ∧
    (∀ marker, ∀ c ∈ h.implementors marker, (h.hasMarker marker c).value = true) ∧
    (h.WellKinded → ∀ c ∈ h.classes, c.isInterface = false →
      (∀ i ∈ h.classes, i.isInterface = true → (h.extendsInterface c i.name).value = true →
        c ∈ h.implementors i.name) ∧
      ∀ marker, (h.hasMarker marker c).value = true → c ∈ h.implementors marker) := by
  intro h
  refine ⟨?_, ?_, ?_, ?_⟩
  · intro b hb c hc hcb
    exact mem_subclasses_iff_extendsClass hc hb hcb
  · intro i hi c hc
    exact extendsInterface_of_mem_implementors hi hc
  · intro marker c hc
    exact hasMarker_of_mem_implementors hc
  · intro hkind c hc hcls
    refine ⟨fun i hi hint hext => ?_, fun marker hmark => ?_⟩
    · exact hkind.mem_implementors_of_extendsInterface hc hi hcls hint hext
    · exact hkind.mem_implementors_of_hasMarker hc hcls hmark

/-- The root class, two interfaces that extend it, of which the second also extends the first and a marker that is not
declared, a class that implements the second interface, and a subclass of it.  Two further classes extend each other. -/
def solids : List ClassDecl :=
  [⟨"java.lang.Object", 0, none, [], .topLevel, []⟩,
    ⟨"a.Shape", .interface, some "java.lang.Object", [], .topLevel, []⟩,
    ⟨"a.Solid", .interface, some "java.lang.Object", ["a.Shape", "a.Mark"], .topLevel, []⟩,
    ⟨"a.Box", 0, some "java.lang.Object", ["a.Solid"], .topLevel, []⟩,
    ⟨"a.Cube", 0, some "a.Box", ["a.Gone"], .topLevel, []⟩,
    ⟨"a.Up", 0, some "a.Down", [], .topLevel, []⟩,
    ⟨"a.Down", 0, some "a.Up", [], .topLevel, []⟩]

theorem queries_agree_on_solids :
    let h := (ofList solids).value
    ∃ box ∈ h.classes, ∃ cube ∈ h.classes, ∃ shape ∈ h.classes,
      box.name = "a.Box" ∧ cube.name = "a.Cube" ∧ shape.name = "a.Shape" ∧ cube ≠ box ∧ h.WellKinded ∧
      (h.extendsClass cube box.name).outcome.value = .ok true ∧ cube ∈ h.subclasses box.name ∧
      (h.extendsInterface cube shape.name).value = true ∧ cube ∈ h.implementors shape.name ∧
      (h.hasMarker "a.Mark" cube).value = true ∧ cube ∈ h.implementors "a.Mark" := by
  intro h
  obtain ⟨hsubclasses, -, -, hcomplete⟩ := queries_agree_with_walks solids
  let box : ClassDecl := ⟨"a.Box", 0, some "java.lang.Object", ["a.Solid"], .topLevel, []⟩
  let cube : ClassDecl := ⟨"a.Cube", 0, some "a.Box", ["a.Gone"], .topLevel, []⟩
  let solid : ClassDecl :=
    ⟨"a.Solid", .interface, some "java.lang.Object", ["a.Shape", "a.Mark"], .topLevel, []⟩
  let shape : ClassDecl := ⟨"a.Shape", .interface, some "java.lang.Object", [], .topLevel, []⟩
  have hbox : box ∈ h.classes := by decide
  have hcube : cube ∈ h.classes := by decide
  have hsolid : solid ∈ h.classes := by decide
  have hshape : shape ∈ h.classes := by decide
  have hkind : h.WellKinded := ⟨⟨by decide, by decide⟩, by decide⟩
  -- the walks from the cube, edge by edge
  have hup : h.Extends cube box := ⟨hbox, rfl⟩
  have hpath : Relation.ReflTransGen h.Supertype cube solid :=
    (Relation.ReflTransGen.single hup.supertype).tail ⟨hsolid, Or.inr (by decide)⟩
  have hclass : (h.extendsClass cube box.name).outcome.value = .ok true :=
    outcome_extendsClass_of_extends hcube hbox (Relation.ReflTransGen.single hup)
  have hinterface : (h.extendsInterface cube shape.name).value = true :=
    (extendsInterface_eq_true_iff hcube hshape).2 (hpath.tail ⟨hshape, Or.inr (by decide)⟩)
  have hmarker : (h.hasMarker "a.Mark" cube).value = true :=
    (hasMarker_eq_true_iff hcube).2 ⟨solid, hpath, by decide⟩
  obtain ⟨himplementors, hmarked⟩ := hcomplete hkind cube hcube (by decide)
  exact ⟨box, hbox, cube, hcube, shape, hshape, rfl, rfl, rfl, by decide, hkind, hclass,
    (hsubclasses box hbox cube hcube (by decide)).2 hclass, hinterface,
    himplementors shape hshape (by decide) hinterface, hmarker, hmarked "a.Mark" hmarker⟩

end Hierarchy

end CallTargets
