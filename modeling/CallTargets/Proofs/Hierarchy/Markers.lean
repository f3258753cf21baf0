import CallTargets.Proofs.Hierarchy.Agreement

/-!
# Markers above a class

A class has a marker if some declaration above it, or the class itself, names the marker among its interfaces.  What is
above a class is reached along superclasses and interfaces that are declared; the marker itself need not be declared.

A supertype that is not declared ends its own branch of the search and no other one.  `Hierarchy.trimmed` is the hierarchy
without such supertypes.  Its edges are those of the whole hierarchy (`supertype_trimmed_iff`), so its paths are as well
(`supertypes_trimmed_iff`), and the search has the same result in both.

* `hasMarker_iff_named_above` is the main result, on every hierarchy, cyclic ones included.
-/

namespace CallTargets

namespace Hierarchy

/-! ### Supertypes that are not declared -/

/-- The declaration `c` without the supertypes that are not declared.  The marker stays where it is named. -/
def trim (h : Hierarchy) (marker : ClassName) (c : ClassDecl) : ClassDecl :=
  { c with
    superName := c.superName.filter fun name => (h.find? name).isSome
    interfaces := c.interfaces.filter fun name => name == marker || (h.find? name).isSome }

/-- The hierarchy without the supertypes that are not declared. -/
def trimmed (h : Hierarchy) (marker : ClassName) : Hierarchy where
  classes := h.classes.map (h.trim marker)
  ascending := List.pairwise_map.2 h.ascending

variable {h : Hierarchy} {marker : ClassName} {c d e : ClassDecl}

@[simp] lemma name_trim : (h.trim marker c).name = c.name := rfl

lemma mem_trimmed_iff : e ∈ (h.trimmed marker).classes ↔ ∃ d ∈ h.classes, h.trim marker d = e :=
  List.mem_map

lemma superName_trim_iff (hd : d ∈ h.classes) :
    (h.trim marker c).superName = some d.name ↔ c.superName = some d.name := by
  simp [trim, Option.filter_eq_some_iff, find?_name hd]

lemma mem_interfaces_trim_iff (hd : d ∈ h.classes) :
    d.name ∈ (h.trim marker c).interfaces ↔ d.name ∈ c.interfaces := by
  simp [trim, find?_name hd]

lemma marker_mem_interfaces_trim_iff :
    marker ∈ (h.trim marker c).interfaces ↔ marker ∈ c.interfaces := by
  simp [trim]

/-! ### Paths in the trimmed hierarchy -/

/-- No edge is lost and none is new. -/
lemma supertype_trimmed_iff :
    (h.trimmed marker).Supertype (h.trim marker c) e ↔ ∃ d, h.Supertype c d ∧ h.trim marker d = e := by
  constructor
  · rintro ⟨he, hedge⟩
    obtain ⟨d, hd, rfl⟩ := mem_trimmed_iff.1 he
    rw [name_trim, superName_trim_iff hd, mem_interfaces_trim_iff hd] at hedge
    exact ⟨d, ⟨hd, hedge⟩, rfl⟩
  · rintro ⟨d, ⟨hd, hedge⟩, rfl⟩
    refine ⟨mem_trimmed_iff.2 ⟨d, hd, rfl⟩, ?_⟩
    rwa [name_trim, superName_trim_iff hd, mem_interfaces_trim_iff hd]

lemma supertypes_trimmed_iff :
    Relation.ReflTransGen (h.trimmed marker).Supertype (h.trim marker c) e ↔
      ∃ d, Relation.ReflTransGen h.Supertype c d ∧ h.trim marker d = e := by
  constructor
  · intro hpath
    induction hpath with
    | refl => exact ⟨c, Relation.ReflTransGen.refl, rfl⟩
    | tail _ hstep ih =>
      obtain ⟨d, hcd, rfl⟩ := ih
      obtain ⟨d', hstep', rfl⟩ := supertype_trimmed_iff.1 hstep
      exact ⟨d', hcd.tail hstep', rfl⟩
  · rintro ⟨d, hcd, rfl⟩
    exact hcd.lift (h.trim marker) fun _ b hab => supertype_trimmed_iff.2 ⟨b, hab, rfl⟩

/-- The marker is named above a class in the one hierarchy exactly if it is in the other. -/
lemma named_above_trimmed_iff :
    (∃ e, Relation.ReflTransGen (h.trimmed marker).Supertype (h.trim marker c) e ∧ marker ∈ e.interfaces) ↔
      ∃ d, Relation.ReflTransGen h.Supertype c d ∧ marker ∈ d.interfaces := by
  constructor
  · rintro ⟨e, hpath, hmarker⟩
    obtain ⟨d, hcd, rfl⟩ := supertypes_trimmed_iff.1 hpath
    exact ⟨d, hcd, marker_mem_interfaces_trim_iff.1 hmarker⟩
  · rintro ⟨d, hcd, hmarker⟩
    exact ⟨h.trim marker d, supertypes_trimmed_iff.2 ⟨d, hcd, rfl⟩, marker_mem_interfaces_trim_iff.2 hmarker⟩

/-! ### The search for a marker -/

/-- **A class has a marker** exactly if a declaration that is reached from it along declared supertypes names the marker
among its interfaces.  Supertypes that are not declared have no part in this: without them the answer is the same. -/
theorem hasMarker_iff_named_above (h : Hierarchy) (marker : ClassName) (c : ClassDecl) (hc : c ∈ h.classes) :
    ((h.hasMarker marker c).value = true ↔
      ∃ d, Relation.ReflTransGen h.Supertype c d ∧ marker ∈ d.interfaces) ∧
    ((h.trimmed marker).hasMarker marker (h.trim marker c)).value = (h.hasMarker marker c).value := by
  refine ⟨hasMarker_eq_true_iff hc, ?_⟩
  have htrimmed : h.trim marker c ∈ (h.trimmed marker).classes := mem_trimmed_iff.2 ⟨c, hc, rfl⟩
  rw [Bool.eq_iff_iff, hasMarker_eq_true_iff htrimmed, hasMarker_eq_true_iff hc]
  exact named_above_trimmed_iff

/-- Two interfaces that extend each other, each with another one that is not declared, and a class with the first of them
and a superclass that is not declared. -/
def beads : Hierarchy :=
  (ofList [⟨"a.Bead", 0, some "a.Lost", ["a.Gone", "a.Ring"], .topLevel, []⟩,
    ⟨"a.Knot", .interface, none, ["a.Ring", "a.Mark"], .topLevel, []⟩,
    ⟨"a.Ring", .interface, none, ["a.Gone", "a.Knot"], .topLevel, []⟩]).value

/-- The marker is found behind missing supertypes and a cycle.  A superclass is no marker. -/
theorem hasMarker_bead :
    ∃ bead ∈ beads.classes, bead.name = "a.Bead" ∧
      (beads.hasMarker "a.Mark" bead).value = true ∧
      beads.trim "a.Mark" bead = ⟨"a.Bead", 0, none, ["a.Ring"], .topLevel, []⟩ ∧
      ((beads.trimmed "a.Mark").hasMarker "a.Mark" (beads.trim "a.Mark" bead)).value = true ∧
      (beads.hasMarker "a.Lost" bead).value = false := by
  let bead : ClassDecl := ⟨"a.Bead", 0, some "a.Lost", ["a.Gone", "a.Ring"], .topLevel, []⟩
  let knot : ClassDecl := ⟨"a.Knot", .interface, none, ["a.Ring", "a.Mark"], .topLevel, []⟩
  let ring : ClassDecl := ⟨"a.Ring", .interface, none, ["a.Gone", "a.Knot"], .topLevel, []⟩
  have hbead : bead ∈ beads.classes := by decide
  have hring : beads.Supertype bead ring := ⟨by decide, Or.inr (by decide)⟩
  have hknot : beads.Supertype ring knot := ⟨by decide, Or.inr (by decide)⟩
  obtain ⟨hiff, htrimmed⟩ := hasMarker_iff_named_above beads "a.Mark" bead hbead
  have hmark : (beads.hasMarker "a.Mark" bead).value = true :=
    hiff.2 ⟨knot, (Relation.ReflTransGen.single hring).tail hknot, by decide⟩
  have hlost : ¬ (beads.hasMarker "a.Lost" bead).value = true := by
    rw [(hasMarker_iff_named_above beads "a.Lost" bead hbead).1]
    rintro ⟨d, hpath, hmarker⟩
    have hnone : ∀ d ∈ beads.classes, "a.Lost" ∉ d.interfaces := by decide
    exact hnone d (mem_of_supertypes hbead hpath) hmarker
  exact ⟨bead, hbead, rfl, hmark, by decide, htrimmed.trans hmark, by simpa using hlost⟩

end Hierarchy

end CallTargets
