import CallTargets.Hierarchy.Descendants
import Mathlib.Logic.Relation
import Mathlib.Tactic.ByContra

/-!
# Looking up declarations

In a hierarchy every name is declared at most once, so looking a name up and being a declaration of that name are the
same thing.  The same holds for the ordered lists that `Hierarchy.put` builds up.
-/

namespace CallTargets

namespace Hierarchy

/-- The names of some declarations ascend, so that no name occurs twice. -/
abbrev Ascending (ds : List ClassDecl) : Prop := ds.Pairwise fun c d => c.name < d.name

/-! ### Declarations by name -/

/-- Among ascending declarations the name determines the declaration. -/
lemma eq_of_mem_of_name_eq {ds : List ClassDecl} (hds : Ascending ds) {c d : ClassDecl}
    (hc : c ∈ ds) (hd : d ∈ ds) (hname : c.name = d.name) : c = d := by
  induction ds with
  | nil => exact absurd hc (by simp)
  | cons e ds ih =>
    obtain ⟨he, htail⟩ := List.pairwise_cons.1 hds
    rcases List.mem_cons.1 hc with rfl | hc' <;> rcases List.mem_cons.1 hd with rfl | hd'
    · rfl
    · exact absurd (he d hd') (by rw [hname]; exact String.lt_irrefl _)
    · exact absurd (he c hc') (by rw [hname]; exact String.lt_irrefl _)
    · exact ih htail hc' hd'

variable {h : Hierarchy} {c d : ClassDecl} {name : ClassName}

lemma eq_of_name_eq (hc : c ∈ h.classes) (hd : d ∈ h.classes) (hname : c.name = d.name) : c = d :=
  eq_of_mem_of_name_eq h.ascending hc hd hname

lemma named?_eq_some_iff {ds : List ClassDecl} (hds : Ascending ds) :
    named? ds name = some c ↔ c ∈ ds ∧ c.name = name := by
  constructor
  · intro hnamed
    exact ⟨List.mem_of_find?_eq_some hnamed, name_of_named?_eq_some hnamed⟩
  · rintro ⟨hc, rfl⟩
    have hsome : (named? ds c.name).isSome := by
      rw [named?, List.find?_isSome]
      exact ⟨c, hc, by simp⟩
    obtain ⟨d, hd⟩ := Option.isSome_iff_exists.1 hsome
    rw [hd, eq_of_mem_of_name_eq hds (List.mem_of_find?_eq_some hd) hc (name_of_named?_eq_some hd)]

/-- Looking a name up gives exactly the declaration of that name. -/
lemma find?_eq_some_iff : h.find? name = some c ↔ c ∈ h.classes ∧ c.name = name :=
  named?_eq_some_iff h.ascending

lemma find?_name (hc : c ∈ h.classes) : h.find? c.name = some c :=
  find?_eq_some_iff.2 ⟨hc, rfl⟩

/-! ### Ordered insertion -/

/-- Insertion keeps all declarations but one of the same name. -/
lemma mem_put_iff {ds : List ClassDecl} (hds : Ascending ds) :
    d ∈ put c ds ↔ d = c ∨ d ∈ ds ∧ d.name ≠ c.name := by
  induction ds with
  | nil => simp [put]
  | cons e ds ih =>
    obtain ⟨he, htail⟩ := List.pairwise_cons.1 hds
    have hne : ∀ x ∈ ds, x.name ≠ e.name := fun x hx hxe =>
      absurd (he x hx) (by rw [hxe]; exact String.lt_irrefl _)
    rw [put]
    split
    · rename_i hlt
      -- every other name is above the new one
      have hother : d ∈ e :: ds → d.name ≠ c.name := by
        intro hd hdc
        have hcd : c.name < d.name := by
          rcases List.mem_cons.1 hd with rfl | hd
          · exact hlt
          · exact String.lt_trans hlt (he d hd)
        exact absurd hcd (by rw [hdc]; exact String.lt_irrefl _)
      rw [List.mem_cons]
      exact or_congr_right ⟨fun hd => ⟨hd, hother hd⟩, fun hd => hd.1⟩
    · split
      · rename_i heq
        rw [List.mem_cons, List.mem_cons]
        refine or_congr_right ⟨fun hd => ⟨Or.inr hd, heq ▸ hne d hd⟩, ?_⟩
        rintro ⟨rfl | hd, hdc⟩
        · exact absurd heq.symm hdc
        · exact hd
      · rename_i hneq
        rw [List.mem_cons, List.mem_cons, ih htail]
        constructor
        · rintro (rfl | rfl | ⟨hd, hdc⟩)
          · exact Or.inr ⟨Or.inl rfl, fun hdc => hneq hdc.symm⟩
          · exact Or.inl rfl
          · exact Or.inr ⟨Or.inr hd, hdc⟩
        · rintro (rfl | ⟨rfl | hd, hdc⟩)
          · exact Or.inr (Or.inl rfl)
          · exact Or.inl rfl
          · exact Or.inr (Or.inr ⟨hd, hdc⟩)

/-- A name above all others is put at the end. -/
lemma put_eq_append {ds : List ClassDecl} (hlt : ∀ d ∈ ds, d.name < c.name) :
    put c ds = ds ++ [c] := by
  induction ds with
  | nil => rfl
  | cons d ds ih =>
    obtain ⟨hd, hds⟩ := List.forall_mem_cons.1 hlt
    have hne : c.name ≠ d.name := fun heq => absurd hd (by rw [heq]; exact String.lt_irrefl _)
    rw [put, if_neg (String.lt_asymm hd), if_neg hne, ih hds, List.cons_append]

/-! ### Selection by name -/

lemma mem_select_iff {names : List ClassName} :
    c ∈ h.select names ↔ c ∈ h.classes ∧ c.name ∈ names := by
  simp [select]

lemma ascending_select (h : Hierarchy) (names : List ClassName) : Ascending (h.select names) :=
  h.ascending.filter _

end Hierarchy

end CallTargets
