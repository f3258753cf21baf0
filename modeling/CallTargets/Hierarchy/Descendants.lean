import CallTargets.Hierarchy.Basic

/-!
# Subclasses and implementors

The queries against the direction of the declarations: all classes below a class, and all classes that implement an
interface, through any number of steps.  Both list declarations of the hierarchy, ascending by name.

Implementors are found by going through a queue of interfaces.  Those that name an interface are put at the end of the
queue if they are interfaces themselves.  If they are classes, they are found together with all their subclasses, and a
class that was found before is not looked at again.
-/

namespace CallTargets

namespace Hierarchy

/-- The declarations whose names are among `names`, ascending. -/
def select (h : Hierarchy) (names : List ClassName) : List ClassDecl :=
  h.classes.filter fun c => names.contains c.name

/-- The names of all classes below `name`, the class itself excepted. -/
def subclassNames (h : Hierarchy) (name : ClassName) : List ClassName :=
  h.edges.subclasses.below name (h.directSubclasses name) []

/-- All classes below `name`, the class itself excepted. -/
def subclasses (h : Hierarchy) (name : ClassName) : List ClassDecl := h.select (h.subclassNames name)

/-- Looks at one of those that name an interface, with the queue and what was found so far. -/
def meet (h : Hierarchy) (state : List ClassName × List ClassName) (name : ClassName) :
    List ClassName × List ClassName :=
  let (queue, found) := state
  match h.find? name with
  | none => (queue, found)
  | some c =>
    if c.isInterface then (queue ++ [name], found)
    else if found.contains name then (queue, found)
    else (queue, found ++ name :: h.subclassNames name)

/-- The names of those that implement the interfaces of a queue, with what was found so far; an interface that was
`visited` is not looked at again. -/
def implementorNames (h : Hierarchy) :
    List ClassName → List ClassName → List ClassName → List ClassName
  | [], _, found => found
  | interface :: queue, visited, found =>
    if hs : visited.contains interface then h.implementorNames queue visited found
    else
      have hvisited : visited.contains interface = false := by simpa using hs
      let met := (h.directImplementors interface).foldl h.meet (queue, found)
      h.implementorNames met.1 (interface :: visited) met.2
termination_by queue visited => (h.edges.implementors.unseen visited, queue.length)
decreasing_by
  · exact Prod.Lex.right _ (Nat.lt_succ_self _)
  · refine EdgeMap.lex_unseen_lt hvisited fun hnil => ?_
    rw [directImplementors, hnil, List.foldl_nil]

/-- All classes that implement the interface `name`, by themselves or through a superclass. -/
def implementors (h : Hierarchy) (name : ClassName) : List ClassDecl :=
  (h.select (h.implementorNames [name] [] [])).filter (!·.isInterface)

end Hierarchy

end CallTargets
