import CallTargets.Hierarchy.Basic

/-!
# Walks through a hierarchy

Two ways to follow supertypes that end on every hierarchy, cyclic ones included.

* `Hierarchy.explore` is a depth-first search.  It visits each name once, and what it does at a declaration is a
  parameter: the visit may stop the search, or name the nodes to look at next, before those that still wait.
* `Hierarchy.chain` is the list of a class and its superclasses, together with the reason why it ends.

Both end because a visited declaration is never visited again, and there are finitely many of them.
-/

namespace CallTargets

namespace Hierarchy

/-- The number of declarations whose name is not among `seen`. -/
def unseen (h : Hierarchy) (seen : List ClassName) : Nat := countUnseen h.names seen

theorem unseen_cons_le (h : Hierarchy) (seen : List ClassName) (name : ClassName) :
    h.unseen (name :: seen) ≤ h.unseen seen :=
  countUnseen_cons_le _ _ _

theorem unseen_cons_lt {h : Hierarchy} {seen : List ClassName} {name : ClassName} {c : ClassDecl}
    (hf : h.find? name = some c) (hs : seen.contains name = false) :
    h.unseen (name :: seen) < h.unseen seen := by
  refine countUnseen_cons_lt ?_ hs
  rw [← name_of_find?_eq_some hf]
  exact List.mem_map_of_mem (mem_of_find?_eq_some hf)

/-! ### Depth-first search -/

/-- What a search does after a visit: it stops, or goes on with more nodes in front. -/
inductive Visit (σ ν : Type) where
  | stop (state : σ)
  | next (state : σ) (nodes : List ν)

/-- Searches from the nodes of a stack.  A node stands for the declaration named `key`; a name that was `seen` is
skipped, one that is not declared is handed to `absent`, and a declaration to `visit`. -/
def explore (h : Hierarchy) {σ ν : Type} (key : ν → ClassName) (absent : ν → Logged Unit)
    (visit : ν → ClassDecl → σ → Logged (Visit σ ν)) :
    List ν → List ClassName → σ → Logged σ
  | [], _, state => pure state
  | node :: rest, seen, state =>
    if hs : seen.contains (key node) then
      h.explore key absent visit rest seen state
    else
      match hf : h.find? (key node) with
      | none => do
        absent node
        have := h.unseen_cons_le seen (key node)
        h.explore key absent visit rest (key node :: seen) state
      | some c => do
        have := unseen_cons_lt hf (by simpa using hs)
        match ← visit node c state with
        | .stop state => pure state
        | .next state nodes => h.explore key absent visit (nodes ++ rest) (key node :: seen) state
termination_by stack seen => (h.unseen seen, stack.length)
decreasing_by
  · exact Prod.Lex.right _ (Nat.lt_succ_self _)
  · rcases Nat.lt_or_eq_of_le this with hlt | heq
    · exact Prod.Lex.left _ _ hlt
    · rw [heq]; exact Prod.Lex.right _ (Nat.lt_succ_self _)
  · exact Prod.Lex.left _ _ this

/-- Searches from the declaration `c`, which need not belong to the hierarchy; `node` stands for it. -/
def exploreFrom (h : Hierarchy) {σ ν : Type} (key : ν → ClassName) (absent : ν → Logged Unit)
    (visit : ν → ClassDecl → σ → Logged (Visit σ ν)) (node : ν) (c : ClassDecl) (state : σ) :
    Logged σ := do
  match ← visit node c state with
  | .stop state => pure state
  | .next state nodes => h.explore key absent visit nodes [c.name] state

/-! ### Superclass chains -/

/-- Why a superclass chain ends. -/
inductive ChainEnd where
  /-- There is no further superclass to look at. -/
  | top
  /-- The next superclass is not declared. -/
  | missing (name : ClassName)
  /-- The next superclass is on the chain already. -/
  | cycle
  deriving DecidableEq, Repr

/-- The superclasses of `c` in order, up to the first one that is a `barrier`; `seen` holds the names on the chain. -/
def ancestors (h : Hierarchy) (barrier : ClassName → Bool) (c : ClassDecl)
    (seen : List ClassName) : List ClassDecl × ChainEnd :=
  match c.superName with
  | none => ([], .top)
  | some name =>
    match hf : h.find? name with
    | none => ([], .missing name)
    | some parent =>
      if barrier name then ([], .top)
      else if hs : seen.contains name then ([], .cycle)
      else
        have := unseen_cons_lt hf (by simpa using hs)
        let (above, reason) := h.ancestors barrier parent (name :: seen)
        (parent :: above, reason)
termination_by h.unseen seen

/-- A class and its superclasses, up to the first superclass that is a `barrier`. -/
def chain (h : Hierarchy) (barrier : ClassName → Bool) (c : ClassDecl) :
    List ClassDecl × ChainEnd :=
  let (above, reason) := h.ancestors barrier c [c.name]
  (c :: above, reason)

end Hierarchy

end CallTargets
