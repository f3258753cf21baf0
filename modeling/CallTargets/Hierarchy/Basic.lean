import CallTargets.Event
import CallTargets.Hierarchy.Edges

/-!
# The class hierarchy

A `Hierarchy` is a set of declarations in which every name stands once, listed by name, together with the edges between
them.  Nothing is assumed of the supertypes that the declarations name: they may be missing, and they may be cyclic.

`Hierarchy.ofList` builds one from declarations in any order.  Of several declarations of a name the last one counts,
and an event tells of each that was replaced.  The edges are those of the declarations that are left in the end.
-/

namespace CallTargets

/-- Declarations listed by name, each name once, with their edges. -/
structure Hierarchy where
  /-- The declarations, ascending by name. -/
  classes : List ClassDecl
  /-- The names ascend. -/
  ascending : classes.Pairwise fun c d => c.name < d.name
  /-- The edges of the declarations. -/
  edges : Edges := Edges.ofClasses classes
  /-- No other edges are there. -/
  edges_eq : edges = Edges.ofClasses classes := by rfl

namespace Hierarchy

/-! ### Insertion -/

/-- Puts a declaration in its place, in place of an earlier one of the same name. -/
def put (c : ClassDecl) : List ClassDecl → List ClassDecl
  | [] => [c]
  | d :: ds =>
    if c.name < d.name then c :: d :: ds
    else if c.name = d.name then c :: ds
    else d :: put c ds

theorem eq_or_mem_of_mem_put {c x : ClassDecl} {ds : List ClassDecl} (h : x ∈ put c ds) :
    x = c ∨ x ∈ ds := by
  induction ds with
  | nil => exact Or.inl (by simpa [put] using h)
  | cons d ds ih =>
    unfold put at h
    split at h
    · rcases List.mem_cons.1 h with rfl | h
      · exact Or.inl rfl
      · exact Or.inr h
    · split at h
      · rcases List.mem_cons.1 h with rfl | h
        · exact Or.inl rfl
        · exact Or.inr (List.mem_cons_of_mem _ h)
      · rcases List.mem_cons.1 h with rfl | h
        · exact Or.inr List.mem_cons_self
        · exact (ih h).imp id (List.mem_cons_of_mem _)

theorem pairwise_put (c : ClassDecl) {ds : List ClassDecl}
    (h : ds.Pairwise fun c d => c.name < d.name) :
    (put c ds).Pairwise fun c d => c.name < d.name := by
  induction ds with
  | nil => simp [put]
  | cons d ds ih =>
    obtain ⟨hd, hds⟩ := List.pairwise_cons.1 h
    unfold put
    split
    · rename_i hlt
      refine List.pairwise_cons.2 ⟨fun x hx => ?_, h⟩
      rcases List.mem_cons.1 hx with rfl | hx
      · exact hlt
      · exact String.lt_trans hlt (hd x hx)
    · split
      · rename_i heq
        exact List.pairwise_cons.2 ⟨fun x hx => heq ▸ hd x hx, hds⟩
      · rename_i hnlt hne
        refine List.pairwise_cons.2 ⟨fun x hx => ?_, ih hds⟩
        rcases eq_or_mem_of_mem_put hx with rfl | hx
        · exact Std.lt_of_le_of_ne (String.not_lt.1 hnlt) (Ne.symm hne)
        · exact hd x hx

/-- The declaration of a name among others. -/
def named? (ds : List ClassDecl) (name : ClassName) : Option ClassDecl := ds.find? (·.name == name)

theorem name_of_named?_eq_some {ds : List ClassDecl} {name : ClassName} {c : ClassDecl}
    (hn : named? ds name = some c) : c.name = name := by
  have hc := List.find?_some hn
  exact eq_of_beq hc

/-- Puts declarations in their places, one after the other. -/
def putAll (ds : List ClassDecl) : List ClassDecl → Logged (List ClassDecl)
  | [] => pure ds
  | c :: cs => do
    if (named? ds c.name).isSome then
      Logged.emit (.duplicateClass c.name)
    putAll (put c ds) cs

theorem pairwise_putAll {ds : List ClassDecl} (h : ds.Pairwise fun c d => c.name < d.name)
    (cs : List ClassDecl) : (putAll ds cs).value.Pairwise fun c d => c.name < d.name := by
  induction cs generalizing ds with
  | nil => exact h
  | cons c cs ih =>
    unfold putAll
    split <;> exact ih (pairwise_put c h)

/-! ### Construction and access -/

/-- The hierarchy of a list of declarations; of several declarations of a name the last one counts. -/
def ofList (cs : List ClassDecl) : Logged Hierarchy :=
  let table := putAll [] cs
  ⟨{ classes := table.value, ascending := pairwise_putAll List.Pairwise.nil cs }, table.events⟩

/-- The declaration of a name. -/
def find? (h : Hierarchy) (name : ClassName) : Option ClassDecl := named? h.classes name

/-- All names, ascending. -/
def names (h : Hierarchy) : List ClassName := h.classes.map (·.name)

/-- The number of declarations. -/
def size (h : Hierarchy) : Nat := h.classes.length

/-- The names of the classes that extend `name`. -/
def directSubclasses (h : Hierarchy) (name : ClassName) : List ClassName := h.edges.subclasses.children name

/-- The names of the classes and interfaces that name `name` among their interfaces. -/
def directImplementors (h : Hierarchy) (name : ClassName) : List ClassName := h.edges.implementors.children name

theorem mem_of_find?_eq_some {h : Hierarchy} {name : ClassName} {c : ClassDecl}
    (hf : h.find? name = some c) : c ∈ h.classes :=
  List.mem_of_find?_eq_some hf

theorem name_of_find?_eq_some {h : Hierarchy} {name : ClassName} {c : ClassDecl}
    (hf : h.find? name = some c) : c.name = name :=
  name_of_named?_eq_some hf

end Hierarchy

end CallTargets
