import CallTargets.Declaration

/-!
# Edges between declarations

A declaration names its supertypes.  Queries go the other way, from a name to the declarations that name it.  So for
each name its *children* are kept in a map: the classes that extend it in one, and the classes and interfaces that name
it among their interfaces in another.

`Edges.ofClasses` builds both maps in one pass over the declarations, in which a child is put at the end of the children
that its parent has so far.  When all are there, the children of each name are sorted, and of equal ones one is kept.

`EdgeMap.below` is a breadth-first walk along the edges of a map, on which no name is looked at twice.
-/

namespace CallTargets

/-! ### Names that were seen -/

/-- The number of names that are not among `seen`. -/
def countUnseen (names seen : List ClassName) : Nat := names.countP fun name => !seen.contains name

theorem countUnseen_cons_le (names seen : List ClassName) (name : ClassName) :
    countUnseen names (name :: seen) ≤ countUnseen names seen := by
  refine List.countP_mono_left fun other _ hother => ?_
  simp only [List.contains_cons, Bool.not_eq_true', Bool.or_eq_false_iff] at hother ⊢
  exact hother.2

theorem countUnseen_cons_lt {names seen : List ClassName} {name : ClassName} (hname : name ∈ names)
    (hseen : seen.contains name = false) : countUnseen names (name :: seen) < countUnseen names seen := by
  induction names with
  | nil => exact absurd hname List.not_mem_nil
  | cons other names ih =>
    have hle := countUnseen_cons_le names seen name
    rw [countUnseen, countUnseen, List.countP_cons, List.countP_cons]
    rw [countUnseen, countUnseen] at hle ih
    by_cases hother : other = name
    · rw [if_neg (by simp [hother]), if_pos (by simp only [hother, hseen, Bool.not_false])]
      omega
    · have hlt := ih ((List.mem_cons.1 hname).resolve_left (Ne.symm hother))
      have hsame : (name :: seen).contains other = seen.contains other := by
        simp [hother]
      rw [hsame]
      omega

/-! ### Maps -/

/-- The children of names, with an entry for each name that has any. -/
abbrev EdgeMap := List (ClassName × List ClassName)

namespace EdgeMap

/-- The children of a name. -/
def children (m : EdgeMap) (name : ClassName) : List ClassName :=
  match m with
  | [] => []
  | (parent, found) :: rest => if name = parent then found else children rest name

/-- Puts a child at the end of the children of `parent`. -/
def push (m : EdgeMap) (parent child : ClassName) : EdgeMap :=
  match m with
  | [] => [(parent, [child])]
  | (name, children) :: rest =>
    if parent = name then (name, children ++ [child]) :: rest
    else (name, children) :: push rest parent child

/-- Sorts the children of each name and keeps one of those that are equal. -/
def tidy (m : EdgeMap) : EdgeMap :=
  m.map fun (name, children) => (name, children.mergeSort.eraseReps)

/-- The number of entries whose name is not among `seen`. -/
def unseen (m : EdgeMap) (seen : List ClassName) : Nat := countUnseen (m.map (·.1)) seen

theorem mem_map_fst_of_children_ne_nil {m : EdgeMap} {name : ClassName} (hne : m.children name ≠ []) :
    name ∈ m.map (·.1) := by
  induction m with
  | nil => exact absurd rfl hne
  | cons entry m ih =>
    rw [children] at hne
    split at hne
    · rename_i hname
      exact hname ▸ List.mem_cons_self
    · exact List.mem_cons_of_mem _ (ih hne)

/-- A walk comes closer to its end by looking at a name: either there are fewer entries left, or the name has no
children, so that the queue gets shorter. -/
theorem lex_unseen_lt {m : EdgeMap} {name : ClassName} {seen queue queue' : List ClassName}
    (hseen : seen.contains name = false) (hqueue : m.children name = [] → queue' = queue) :
    Prod.Lex (· < ·) (· < ·) (m.unseen (name :: seen), queue'.length) (m.unseen seen, queue.length + 1) := by
  by_cases hnil : m.children name = []
  · rw [hqueue hnil]
    rcases Nat.lt_or_eq_of_le (countUnseen_cons_le (m.map (·.1)) seen name) with hlt | heq
    · exact Prod.Lex.left _ _ hlt
    · rw [unseen, heq]
      exact Prod.Lex.right _ (Nat.lt_succ_self _)
  · exact Prod.Lex.left _ _ (countUnseen_cons_lt (mem_map_fst_of_children_ne_nil hnil) hseen)

/-- The names below `base` that are reached from a queue; a name that was `seen` is not looked at again. -/
def below (m : EdgeMap) (base : ClassName) : List ClassName → List ClassName → List ClassName
  | [], _ => []
  | next :: queue, seen =>
    if hs : next = base ∨ seen.contains next then m.below base queue seen
    else
      have hseen : seen.contains next = false := by simpa using (not_or.1 hs).2
      next :: m.below base (queue ++ m.children next) (next :: seen)
termination_by queue seen => (m.unseen seen, queue.length)
decreasing_by
  · exact Prod.Lex.right _ (Nat.lt_succ_self _)
  · exact lex_unseen_lt hseen fun hnil => by rw [hnil, List.append_nil]

end EdgeMap

/-- The edges of declarations, by the name that they lead to. -/
structure Edges where
  /-- The classes that extend a class. -/
  subclasses : EdgeMap := []
  /-- The classes and interfaces that name an interface. -/
  implementors : EdgeMap := []

namespace Edges

/-- Adds the edges of one more declaration. -/
def add (e : Edges) (c : ClassDecl) : Edges where
  subclasses := match c.superName with
    | some parent => e.subclasses.push parent c.name
    | none => e.subclasses
  implementors := c.interfaces.foldl (fun m parent => m.push parent c.name) e.implementors

/-- The edges of some declarations. -/
def ofClasses (cs : List ClassDecl) : Edges :=
  let e := cs.foldl add {}
  ⟨e.subclasses.tidy, e.implementors.tidy⟩

end Edges

end CallTargets
