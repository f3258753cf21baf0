import CallTargets.Proofs.Dispatch.Defaults
import CallTargets.Proofs.Hierarchy.DepthFirst
import CallTargets.Proofs.Merge.Order

/-!
# The search for default methods

Which interfaces the search for default methods finds, and in which order.

* `Resolver.Visits`: the recursive search, from a class through its interfaces and then through its superclass, which
  goes no further where an interface has a body for the call.  `allDefaults_eq_hits` and `firstDefault_eq_take` tie
  both ways of searching to it.
* `Resolver.Offers`: the interfaces that should be found, said by edges alone.  `offers_of_mem_hits` needs no
  assumption.  `Apart.mem_hits_of_offers` needs that no superclass is met as an interface too: a name is looked at once,
  and from a class its interfaces are followed even if it has a body itself.

The main statements are `defaultMethods_depth_first` and, for an interface that is above another one,
`overridden_default_iff`.  Both may be found: `disk_reports_overridden`.
-/

namespace CallTargets

namespace Hierarchy

/-- `d` is declared, and `c` names it among its interfaces. -/
def Names (h : Hierarchy) (c d : ClassDecl) : Prop := d ∈ h.classes ∧ d.name ∈ c.interfaces

lemma Names.supertype {h : Hierarchy} {c d : ClassDecl} (hcd : h.Names c d) : h.Supertype c d :=
  ⟨hcd.1, Or.inr hcd.2⟩

end Hierarchy

namespace Resolver

variable {r : Resolver} {site : CallSite} {start c d i : ClassDecl} {visited : List (DefaultNode × ClassDecl)}

/-! ### The recursive search -/

/-- The interfaces that are looked at from a declaration.  An interface that has a body for the call gives none. -/
def interfacesRead (r : Resolver) (site : CallSite) : DefaultNode × ClassDecl → List ClassName
  | (.cls _, c) => c.interfaces
  | (.interface _, c) => if (r.declares site c).value then [] else c.interfaces

/-- The superclass that is looked at from a declaration. -/
def superclassRead (r : Resolver) : DefaultNode × ClassDecl → Option ClassDecl
  | (.cls _, c) => c.superName.bind r.hierarchy.find?
  | (.interface _, _) => none

/-- What is looked at from a declaration: its interfaces in order, then its superclass. -/
def nextNodes (r : Resolver) (site : CallSite) (node : DefaultNode) (c : ClassDecl) : List DefaultNode :=
  (r.interfacesRead site (node, c)).map .interface ++ ((r.superclassRead (node, c)).map (.cls ·.name)).toList

/-- The declarations that a recursive search from the class `start` visits, in order. -/
def Visits (r : Resolver) (site : CallSite) (start : ClassDecl) (visited : List (DefaultNode × ClassDecl)) :
    Prop :=
  ∃ seen, r.hierarchy.DepthFirst DefaultNode.name (r.nextNodes site) [.cls start.name] [] visited seen

/-- Whether a declaration is looked at as an interface and has a body for the call. -/
def isHit (r : Resolver) (site : CallSite) : DefaultNode × ClassDecl → Bool
  | (.cls _, _) => false
  | (.interface _, c) => (r.declares site c).value

/-- What has been found once a declaration is visited too. -/
def collect (r : Resolver) (site : CallSite) (found : List ClassDecl) (v : DefaultNode × ClassDecl) :
    List ClassDecl :=
  if r.isHit site v then found ++ [v.2] else found

/-- The interfaces with a body for the call among what is visited, in order. -/
def hits (r : Resolver) (site : CallSite) (visited : List (DefaultNode × ClassDecl)) : List ClassDecl :=
  (visited.filter (r.isHit site)).map (·.2)

/-! ### The two ways of searching -/

/-- The resolver with another way to search for default methods. -/
def searching (r : Resolver) (search : DefaultSearch) : Resolver :=
  { r with policy := { r.policy with defaultSearch := search } }

/-- The interfaces with a body for a call that the exhaustive search finds. -/
def allDefaults (r : Resolver) (site : CallSite) (start : ClassDecl) : List ClassDecl :=
  ((r.searching .exhaustive).defaultMethods site start).value

/-- The interface with a body for a call at which the other search ends, if there is one. -/
def firstDefault (r : Resolver) (site : CallSite) (start : ClassDecl) : List ClassDecl :=
  ((r.searching .firstFound).defaultMethods site start).value

/-- Whether a class declares a call does not depend on how default methods are searched. -/
@[simp] lemma declares_searching (search : DefaultSearch) (c : ClassDecl) :
    (r.searching search).declares site c = r.declares site c := by
  rw [declares, declares]
  induction c.methodsNamed site.name with
  | nil => rfl
  | cons m ms ih =>
    rw [declaresAmong, declaresAmong, ih]
    rfl

lemma value_superNode (r : Resolver) (c : ClassDecl) :
    (r.superNode c).value = ((c.superName.bind r.hierarchy.find?).map (DefaultNode.cls ·.name)).toList := by
  rw [superNode]
  cases c.superName with
  | none => rfl
  | some name =>
    rw [Option.bind_some]
    dsimp only
    cases hf : r.hierarchy.find? name with
    | none => rfl
    | some d =>
      rw [Option.map_some, Hierarchy.name_of_find?_eq_some hf]
      rfl

/-- A visit of the exhaustive search. -/
lemma visitDefault_exhaustive (node : DefaultNode) (c : ClassDecl) (found : List ClassDecl) :
    ((r.searching .exhaustive).visitDefault site node c found).value =
      .next (r.collect site found (node, c)) (r.nextNodes site node c) := by
  cases node with
  | cls name =>
    rw [visitDefault_cls, value_superNode]
    rfl
  | interface name =>
    rw [visitDefault_interface, declares_searching]
    simp only [nextNodes, interfacesRead, collect, isHit, superclassRead, searching]
    split <;> rename_i hdecl <;> simp [hdecl]

/-- A visit of the other search, which stops at a hit. -/
lemma visitDefault_firstFound (node : DefaultNode) (c : ClassDecl) (found : List ClassDecl) :
    ((r.searching .firstFound).visitDefault site node c found).value =
      if r.isHit site (node, c) then .stop (found ++ [c]) else .next found (r.nextNodes site node c) := by
  cases node with
  | cls name =>
    rw [visitDefault_cls, value_superNode]
    rfl
  | interface name =>
    rw [visitDefault_interface, declares_searching]
    simp only [nextNodes, interfacesRead, isHit, superclassRead, searching]
    split <;> simp

lemma foldl_hits (found : List ClassDecl) (visited : List (DefaultNode × ClassDecl)) :
    visited.foldl (r.collect site) found = found ++ r.hits site visited := by
  induction visited generalizing found with
  | nil => exact (List.append_nil found).symm
  | cons v visited ih =>
    rw [List.foldl_cons, ih, collect, hits, hits, List.filter_cons]
    split <;> simp

lemma value_defaultMethods (hstart : start ∈ r.hierarchy.classes) :
    (r.defaultMethods site start).value = (r.hierarchy.explore DefaultNode.name DefaultNode.absent
      (r.visitDefault site) [.cls start.name] [] []).value := by
  rw [defaultMethods]
  exact Hierarchy.value_exploreFrom hstart (n := DefaultNode.cls start.name) rfl []

/-- **The exhaustive search** lists the hits of the recursive search in order. -/
lemma allDefaults_eq_hits (r : Resolver) (site : CallSite) (hstart : start ∈ r.hierarchy.classes) :
    ∃ visited, r.Visits site start visited ∧ r.allDefaults site start = r.hits site visited := by
  have hsearch : ∃ visited seen,
      r.hierarchy.DepthFirst DefaultNode.name (r.nextNodes site) [.cls start.name] [] visited seen ∧
      (r.hierarchy.explore DefaultNode.name DefaultNode.absent ((r.searching .exhaustive).visitDefault site)
        [.cls start.name] [] []).value = visited.foldl (r.collect site) [] :=
    Hierarchy.exists_depthFirst_explore visitDefault_exhaustive _ _ _
  obtain ⟨visited, seen, hvisited, hvalue⟩ := hsearch
  refine ⟨visited, ⟨seen, hvisited⟩, ?_⟩
  rw [foldl_hits, List.nil_append] at hvalue
  exact (value_defaultMethods (r := r.searching .exhaustive) hstart).trans hvalue

/-- **The search that ends at a hit** ends at the first one of the recursive search. -/
lemma firstDefault_eq_take (hstart : start ∈ r.hierarchy.classes) (hvisits : r.Visits site start visited) :
    r.firstDefault site start = (r.hits site visited).take 1 := by
  obtain ⟨seen, hvisited⟩ := hvisits
  rw [firstDefault, value_defaultMethods (r := r.searching .firstFound) hstart]
  -- while the search goes on nothing has been found, and what is still to be visited has the same hits
  refine Hierarchy.explore_induction (h := r.hierarchy) (motive := fun stack seen s t => s = [] →
    ∀ visited seen', r.hierarchy.DepthFirst DefaultNode.name (r.nextNodes site) stack seen visited seen' →
      t = (r.hits site visited).take 1) ?_ ?_ ?_ ?_ ?_ [.cls start.name] [] [] rfl visited seen hvisited
  · rintro seen s rfl visited seen' hvisited
    cases hvisited
    rfl
  · intro node rest seen s t hseen ih hs visited seen' hvisited
    exact ih hs visited seen' ((Hierarchy.DepthFirst.skip_iff hseen).1 hvisited)
  · intro node rest seen s t hnew hf ih hs visited seen' hvisited
    exact ih hs visited seen' ((Hierarchy.DepthFirst.missing_iff hnew hf).1 hvisited)
  · rintro node rest seen s t c hnew hf hstop rfl visited seen' hvisited
    obtain ⟨ws, rfl, -⟩ := (Hierarchy.DepthFirst.cons_iff hnew hf).1 hvisited
    rw [visitDefault_firstFound] at hstop
    split at hstop
    · rename_i hhit
      obtain rfl := Hierarchy.Visit.stop.inj hstop
      rw [hits, List.filter_cons_of_pos hhit]
      rfl
    · exact absurd hstop (by simp)
  · rintro node rest seen s t c s' nodes hnew hf hnext ih rfl visited seen' hvisited
    obtain ⟨ws, rfl, hws⟩ := (Hierarchy.DepthFirst.cons_iff hnew hf).1 hvisited
    rw [visitDefault_firstFound] at hnext
    split at hnext
    · exact absurd hnext (by simp)
    · rename_i hhit
      obtain ⟨rfl, rfl⟩ := Hierarchy.Visit.next.inj hnext
      rw [hits, List.filter_cons_of_neg hhit]
      exact ih rfl ws seen' hws

/-! ### The edges that are followed -/

/-- Superclass edges, and then edges to interfaces without a body for the call, lead from the class `start` to `c`. -/
inductive Passes (r : Resolver) (site : CallSite) (start : ClassDecl) : ClassDecl → Prop
  | superclass {c : ClassDecl} : Relation.ReflTransGen r.hierarchy.Extends start c → Passes r site start c
  | interface {c i : ClassDecl} : Passes r site start c → r.hierarchy.Names c i →
      (r.declares site i).value = false → Passes r site start i

/-- The interface `i` has a body for the call, and an edge leads to it from a declaration to which the class `start`
passes. -/
def Offers (r : Resolver) (site : CallSite) (start i : ClassDecl) : Prop :=
  (∃ c, r.Passes site start c ∧ r.hierarchy.Names c i) ∧ (r.declares site i).value = true

/-- What a node of the search stands for: a superclass, or an interface of a declaration that is passed. -/
def Standing (r : Resolver) (site : CallSite) (start : ClassDecl) : DefaultNode → Prop
  | .cls name => ∃ c, r.hierarchy.find? name = some c ∧ Relation.ReflTransGen r.hierarchy.Extends start c
  | .interface name => ∃ c, r.Passes site start c ∧ name ∈ c.interfaces

lemma mem_nextNodes_interface {v : DefaultNode × ClassDecl} {name : ClassName} :
    .interface name ∈ r.nextNodes site v.1 v.2 ↔ name ∈ r.interfacesRead site v := by
  simp [nextNodes]

lemma mem_nextNodes_cls {node : DefaultNode} {name : ClassName}
    (hmem : .cls name ∈ r.nextNodes site node c) :
    ∃ m d, node = .cls m ∧ r.hierarchy.Extends c d ∧ d.name = name := by
  cases node with
  | cls m =>
    simp only [nextNodes, superclassRead, List.mem_append, List.mem_map, reduceCtorEq, and_false, exists_false,
      false_or, Option.mem_toList, Option.map_eq_some_iff, Option.bind_eq_some_iff] at hmem
    obtain ⟨d, ⟨n, hsup, hf⟩, hcls⟩ := hmem
    exact ⟨m, d, rfl, Hierarchy.extends_of_find? hsup hf, DefaultNode.cls.inj hcls⟩
  | interface m => simp [nextNodes, superclassRead] at hmem

/-- A declaration from which interfaces are read is passed. -/
lemma passes_of_standing {v : DefaultNode × ClassDecl} {name : ClassName} (hv : r.Standing site start v.1)
    (hf : r.hierarchy.find? v.1.name = some v.2) (hread : name ∈ r.interfacesRead site v) :
    r.Passes site start v.2 := by
  obtain ⟨node, c⟩ := v
  cases node with
  | cls m =>
    obtain ⟨d, hd, hpath⟩ := hv
    obtain rfl := Option.some.inj (hd.symm.trans hf)
    exact .superclass hpath
  | interface m =>
    obtain ⟨b, hb, hname⟩ := hv
    obtain ⟨hc, hm⟩ : c ∈ r.hierarchy.classes ∧ c.name = m := Hierarchy.find?_eq_some_iff.1 hf
    refine .interface hb ⟨hc, hm ▸ hname⟩ ?_
    by_contra hdecl
    simp [interfacesRead, hdecl] at hread

lemma interfacesRead_subset (v : DefaultNode × ClassDecl) : r.interfacesRead site v ⊆ v.2.interfaces := by
  obtain ⟨node, c⟩ := v
  cases node with
  | cls name => exact List.Subset.refl _
  | interface name =>
    rw [interfacesRead]
    split
    · exact List.nil_subset _
    · exact List.Subset.refl _

/-- What is visited as an interface was read from a declaration that is visited. -/
lemma read_of_visits (hvisits : r.Visits site start visited) {name : ClassName}
    (hc : (.interface name, c) ∈ visited) : ∃ v ∈ visited, name ∈ r.interfacesRead site v := by
  obtain ⟨seen, hvisited⟩ := hvisits
  rcases hvisited.origin _ hc with hstack | ⟨v, hv, hnext⟩
  · simp at hstack
  · exact ⟨v, hv, mem_nextNodes_interface.1 hnext⟩

lemma mem_hits_iff : c ∈ r.hits site visited ↔
    (∃ name, (.interface name, c) ∈ visited) ∧ (r.declares site c).value = true := by
  simp only [hits, List.mem_map, List.mem_filter]
  constructor
  · rintro ⟨⟨node, c⟩, ⟨hc, hhit⟩, rfl⟩
    cases node with
    | cls name => exact absurd hhit (by simp [isHit])
    | interface name => exact ⟨⟨name, hc⟩, hhit⟩
  · rintro ⟨⟨name, hc⟩, hdecl⟩
    exact ⟨(.interface name, c), ⟨hc, hdecl⟩, rfl⟩

/-- Nothing is found twice. -/
lemma nodup_hits (hvisits : r.Visits site start visited) : (r.hits site visited).Nodup := by
  obtain ⟨seen, hvisited⟩ := hvisits
  have hnames : visited.map (fun v => v.1.name) = (visited.map (·.2)).map (·.name) := by
    rw [List.map_map]
    exact List.map_congr_left hvisited.key_eq_name
  have hnodup : ((visited.map (·.2)).map (·.name)).Nodup := hnames ▸ hvisited.nodup
  exact hnodup.of_map.sublist (List.filter_sublist.map _)

/-! ### What is found is offered -/

section Found

variable (hstart : start ∈ r.hierarchy.classes) (hvisits : r.Visits site start visited)
include hstart hvisits

/-- Every visited node stands for what it should. -/
lemma standing_of_visits : ∀ v ∈ visited, r.Standing site start v.1 := by
  obtain ⟨seen, hvisited⟩ := hvisits
  refine hvisited.induction ?_ ?_
  · intro n hn
    obtain rfl := List.mem_singleton.1 hn
    exact ⟨start, Hierarchy.find?_name hstart, Relation.ReflTransGen.refl⟩
  · intro n c hn hf m hm
    cases m with
    | interface name =>
      have hread : name ∈ r.interfacesRead site (n, c) := mem_nextNodes_interface.1 hm
      exact ⟨c, passes_of_standing (v := (n, c)) hn hf hread, interfacesRead_subset _ hread⟩
    | cls name =>
      obtain ⟨m', d, rfl, hcd, rfl⟩ := mem_nextNodes_cls hm
      obtain ⟨c', hc', hpath⟩ := hn
      obtain rfl := Option.some.inj (hc'.symm.trans hf)
      exact ⟨d, Hierarchy.find?_name hcd.1, hpath.tail hcd⟩

/-- The interfaces that are read belong to declarations that are passed. -/
lemma passes_of_read {v : DefaultNode × ClassDecl} {name : ClassName} (hv : v ∈ visited)
    (hread : name ∈ r.interfacesRead site v) : r.Passes site start v.2 :=
  passes_of_standing (standing_of_visits hstart hvisits v hv) (hvisits.choose_spec.find?_of_mem v hv) hread

/-- What is found is named by a declaration that is passed and not found itself. -/
lemma named_of_mem_hits (hi : i ∈ r.hits site visited) :
    ∃ c, c ∉ r.hits site visited ∧ r.Passes site start c ∧ r.hierarchy.Names c i := by
  obtain ⟨⟨name, hmem⟩, -⟩ := mem_hits_iff.1 hi
  obtain ⟨v, hv, hread⟩ := read_of_visits hvisits hmem
  have hpasses := passes_of_read hstart hvisits hv hread
  obtain ⟨seen, hvisited⟩ := hvisits
  obtain ⟨hclass, rfl⟩ : i ∈ r.hierarchy.classes ∧ i.name = name :=
    Hierarchy.find?_eq_some_iff.1 (hvisited.find?_of_mem _ hmem)
  refine ⟨v.2, fun hhit => ?_, hpasses, hclass, interfacesRead_subset v hread⟩
  -- a declaration that is found is visited in that role only, and nothing is read from it
  obtain ⟨⟨m, hm⟩, hdecl⟩ := mem_hits_iff.1 hhit
  have hnames : v.1.name = m := (hvisited.key_eq_name v hv).trans (hvisited.key_eq_name _ hm).symm
  rw [hvisited.eq_of_key_eq hv hm hnames, interfacesRead, if_pos hdecl] at hread
  exact absurd hread (by simp)

lemma offers_of_mem_hits (hi : i ∈ r.hits site visited) : r.Offers site start i := by
  obtain ⟨c, -, hc, hci⟩ := named_of_mem_hits hstart hvisits hi
  exact ⟨⟨c, hc, hci⟩, (mem_hits_iff.1 hi).2⟩

end Found

/-! ### What is offered is found -/

/-- Neither `start` nor a superclass of it is read as an interface from what is visited. -/
def Apart (r : Resolver) (site : CallSite) (start : ClassDecl) (visited : List (DefaultNode × ClassDecl)) :
    Prop :=
  ∀ v ∈ visited, ∀ d, Relation.ReflTransGen r.hierarchy.Extends start d →
    d.name ∉ r.interfacesRead site v

/-- A superclass that is visited is visited as a class. -/
lemma Apart.cls_of_visits (hapart : r.Apart site start visited) (hvisits : r.Visits site start visited)
    (hpath : Relation.ReflTransGen r.hierarchy.Extends start c) {node : DefaultNode}
    (hname : node.name = c.name) (hc : (node, c) ∈ visited) : (.cls c.name, c) ∈ visited := by
  cases node with
  | cls name =>
    obtain rfl : name = c.name := hname
    exact hc
  | interface name =>
    obtain rfl : name = c.name := hname
    obtain ⟨v, hv, hread⟩ := read_of_visits hvisits hc
    exact absurd hread (hapart v hv c hpath)

section Offered

variable (hapart : r.Apart site start visited) (hstart : start ∈ r.hierarchy.classes)
  (hvisits : r.Visits site start visited)
include hapart hstart hvisits

/-- Every superclass is visited as a class. -/
lemma Apart.visits_superclass (hpath : Relation.ReflTransGen r.hierarchy.Extends start c) :
    (.cls c.name, c) ∈ visited := by
  obtain ⟨seen, hvisited⟩ := id hvisits
  induction hpath with
  | refl =>
    obtain ⟨node, hname, hmem⟩ := hvisited.visited_of_mem_stack hstart List.mem_cons_self rfl
    exact hapart.cls_of_visits hvisits .refl hname hmem
  | @tail c d hpath hcd ih =>
    have hnext : .cls d.name ∈ r.nextNodes site (.cls c.name) c := by
      simp [nextNodes, superclassRead, hcd.2, Hierarchy.find?_name hcd.1]
    obtain ⟨node, hname, hmem⟩ := hvisited.visited_of_mem_next hcd.1 ih hnext rfl
    exact hapart.cls_of_visits hvisits (hpath.tail hcd) hname hmem

/-- Every interface that is read is visited as an interface. -/
lemma Apart.visits_interface {v : DefaultNode × ClassDecl} (hv : v ∈ visited)
    (hi : i ∈ r.hierarchy.classes) (hread : i.name ∈ r.interfacesRead site v) :
    (.interface i.name, i) ∈ visited := by
  obtain ⟨seen, hvisited⟩ := id hvisits
  obtain ⟨node, hname, hmem⟩ := hvisited.visited_of_mem_next hi hv (mem_nextNodes_interface.2 hread) rfl
  cases node with
  | interface name =>
    obtain rfl : name = i.name := hname
    exact hmem
  | cls name =>
    obtain ⟨d, hd, hpath⟩ := standing_of_visits hstart hvisits _ hmem
    obtain rfl : d = i := Option.some.inj (hd.symm.trans (hvisited.find?_of_mem _ hmem))
    exact absurd hread (hapart v hv d hpath)

/-- All interfaces of a declaration that is passed are read. -/
lemma Apart.reads_of_passes (hc : r.Passes site start c) :
    ∃ node, (node, c) ∈ visited ∧ r.interfacesRead site (node, c) = c.interfaces := by
  -- from a class all of them are, and from an interface too if it has no body
  induction hc with
  | @superclass c hpath => exact ⟨.cls c.name, hapart.visits_superclass hstart hvisits hpath, rfl⟩
  | @interface c i _ hci hdecl ih =>
    obtain ⟨node, hmem, hread⟩ := ih
    refine ⟨.interface i.name, hapart.visits_interface hstart hvisits hmem hci.1 (hread ▸ hci.2), ?_⟩
    rw [interfacesRead, if_neg (by simp [hdecl])]

lemma Apart.mem_hits_of_offers (hi : r.Offers site start i) : i ∈ r.hits site visited := by
  obtain ⟨⟨c, hc, hci⟩, hdecl⟩ := hi
  obtain ⟨node, hmem, hread⟩ := hapart.reads_of_passes hstart hvisits hc
  exact mem_hits_iff.2 ⟨⟨i.name, hapart.visits_interface hstart hvisits hmem hci.1 (hread ▸ hci.2)⟩, hdecl⟩

end Offered

lemma mem_classes_of_extends (hstart : start ∈ r.hierarchy.classes)
    (hpath : Relation.ReflTransGen r.hierarchy.Extends start c) : c ∈ r.hierarchy.classes := by
  rcases Relation.ReflTransGen.cases_tail hpath with rfl | ⟨b, -, hbc⟩
  · exact hstart
  · exact hbc.1

/-- The same assumption by edges alone. -/
lemma apart_of_passes (hstart : start ∈ r.hierarchy.classes) (hvisits : r.Visits site start visited)
    (hedges : ∀ c d, r.Passes site start c → Relation.ReflTransGen r.hierarchy.Extends start d →
      ¬ r.hierarchy.Names c d) : r.Apart site start visited := by
  intro v hv d hpath hread
  exact hedges v.2 d (passes_of_read hstart hvisits hv hread) hpath
    ⟨mem_classes_of_extends hstart hpath, interfacesRead_subset v hread⟩

/-- It holds of every class where classes and interfaces are not confused. -/
lemma not_names_of_kinded (hkinded : r.hierarchy.Kinded) (hstart : start ∈ r.hierarchy.classes)
    (hclass : start.isInterface = false) (hc : r.Passes site start c)
    (hpath : Relation.ReflTransGen r.hierarchy.Extends start d) : ¬ r.hierarchy.Names c d := by
  intro hcd
  have hc : c ∈ r.hierarchy.classes := by
    cases hc with
    | superclass hpath => exact mem_classes_of_extends hstart hpath
    | interface _ hbc _ => exact hbc.1
  have hinterface := hkinded.implemented c hc d hcd.1 hcd.2
  rcases Relation.ReflTransGen.cases_tail hpath with rfl | ⟨b, hb, hbd⟩
  · exact absurd hinterface (by simp [hclass])
  · have hsuper := hkinded.extended b (mem_classes_of_extends hstart hb) d hbd.1 hbd.2
    exact absurd hinterface (by simp [hsuper])

/-! ### The main statements -/

/-- **The search for default methods is a depth-first search.**  The exhaustive search lists the interfaces with a body
for the call that are visited, in that order and each once.  They are the ones that the class offers, unless one of its
superclasses is read as an interface too.  The other search finds the first of them, if there is one. -/
theorem defaultMethods_depth_first (r : Resolver) (site : CallSite) (start : ClassDecl)
    (hstart : start ∈ r.hierarchy.classes) :
    ∃ visited, (∀ vs, r.Visits site start vs ↔ vs = visited) ∧
      r.allDefaults site start = r.hits site visited ∧ (r.allDefaults site start).Nodup ∧
      (r.Apart site start visited → (∀ i, i ∈ r.allDefaults site start ↔ r.Offers site start i) ∧
        (r.allDefaults site start = [] ↔ ¬ ∃ i, r.Offers site start i)) ∧
      (r.firstDefault site start = [] ↔ r.allDefaults site start = []) ∧
      ∀ i rest, r.allDefaults site start = i :: rest → r.firstDefault site start = [i] := by
  obtain ⟨visited, hvisits, hall⟩ := r.allDefaults_eq_hits site hstart
  have hfirst := firstDefault_eq_take hstart hvisits
  rw [← hall] at hfirst
  refine ⟨visited, fun vs => ⟨fun hvs => ?_, fun hvs => hvs ▸ hvisits⟩, hall, hall ▸ nodup_hits hvisits,
    fun hapart => ?_, by simp [hfirst], fun i rest hcons => by simp [hfirst, hcons]⟩
  · exact (hvs.choose_spec.unique hvisits.choose_spec).1
  · have hiff : ∀ i, i ∈ r.allDefaults site start ↔ r.Offers site start i := fun i =>
      hall ▸ ⟨offers_of_mem_hits hstart hvisits, hapart.mem_hits_of_offers hstart hvisits⟩
    refine ⟨hiff, ?_⟩
    rw [List.eq_nil_iff_forall_not_mem, not_exists]
    exact forall_congr' fun i => not_congr (hiff i)

/-- An interface with a default method. -/
def surface : ClassDecl :=
  ⟨"a.Surface", .interface ||| .abstract, none, [], .topLevel, [⟨"area", 0, [], .void⟩]⟩

/-- An interface that overrides the default method of `surface`. -/
def rounded : ClassDecl :=
  ⟨"a.Rounded", .interface ||| .abstract, none, ["a.Surface"], .topLevel, [⟨"area", 0, [], .void⟩]⟩

/-- A class that names both interfaces. -/
def disk : ClassDecl := ⟨"a.Disk", 0, none, ["a.Rounded", "a.Surface"], .topLevel, []⟩

/-- An interface without a body, which is above itself and names an interface that is not declared. -/
def ringed : ClassDecl :=
  ⟨"a.Ringed", .interface ||| .abstract, none, ["a.Ringed", "a.Rounded", "a.Gone"], .topLevel, []⟩

def plate : ClassDecl := ⟨"a.Plate", 0, some "a.Disk", ["a.Ringed"], .topLevel, []⟩

/-- The call of `area` on the class or interface `owner`. -/
def areaOn (owner : ClassDecl) : CallSite := ⟨owner.name, "area", "()V", false, none, none⟩

/-- A resolver for a plate, which is a disk. -/
def plates : Resolver := unlimited [surface, rounded, disk, ringed, plate] {}

/-- A resolver for a disk alone. -/
def disks : Resolver := unlimited [surface, rounded, disk] {}

lemma allDefaults_plate : plates.allDefaults (areaOn plate) plate = [rounded, surface] := by
  cbv

theorem plate_depth_first :
    plate ∈ plates.hierarchy.classes ∧ ∃ visited, plates.Visits (areaOn plate) plate visited ∧
      plates.Apart (areaOn plate) plate visited ∧
      plates.hits (areaOn plate) visited = [rounded, surface] ∧
      (∀ i, i ∈ [rounded, surface] ↔ plates.Offers (areaOn plate) plate i) ∧
      plates.firstDefault (areaOn plate) plate = [rounded] := by
  have hplate : plate ∈ plates.hierarchy.classes := by decide
  have hkinded : plates.hierarchy.Kinded := ⟨by decide, by decide⟩
  obtain ⟨visited, hvisits, hall, -, hoffers, -, hfirst⟩ :=
    defaultMethods_depth_first plates (areaOn plate) plate hplate
  have hvisited := (hvisits visited).2 rfl
  have hapart := apart_of_passes hplate hvisited fun c d => not_names_of_kinded hkinded hplate (by decide)
  rw [allDefaults_plate] at hall hoffers hfirst
  exact ⟨hplate, visited, hvisited, hapart, hall.symm, (hoffers hapart).1, hfirst rounded [surface] rfl⟩

/-! ### Interfaces above one another -/

lemma allDefaults_disk : disks.allDefaults (areaOn disk) disk = [rounded, surface] := by
  cbv

lemma names_rounded_surface : disks.hierarchy.Names rounded surface :=
  ⟨by decide, by decide⟩

lemma acyclic_disk : disks.hierarchy.Acyclic :=
  Hierarchy.acyclic_of_rank
    (fun name => if name = "a.Disk" then 2 else if name = "a.Rounded" then 1 else 0) (by decide)

/-- A body is found although one that overrides it is found too. -/
theorem disk_reports_overridden :
    disks.hierarchy.Acyclic ∧ disk ∈ disks.hierarchy.classes ∧
      ¬ ∀ a ∈ disks.allDefaults (areaOn disk) disk, ∀ b ∈ disks.allDefaults (areaOn disk) disk,
        a ≠ b → ¬ Relation.TransGen disks.hierarchy.Names a b := by
  refine ⟨acyclic_disk, by decide, fun hnone => ?_⟩
  rw [allDefaults_disk] at hnone
  exact hnone rounded (by simp) surface (by simp) (by decide) (.single names_rounded_surface)

/-- **Which overridden bodies are found.**  An interface above another one in the result is in the result only if it is
named elsewhere too, by a declaration that is passed and is not in the result.  No interface in the result is above
another one exactly if the class offers no two such interfaces, unless one of its superclasses is named as an interface
too. -/
theorem overridden_default_iff (r : Resolver) (site : CallSite) (start : ClassDecl)
    (hstart : start ∈ r.hierarchy.classes) (hacyclic : r.hierarchy.Acyclic) :
    (∀ a ∈ r.allDefaults site start, ∀ b ∈ r.allDefaults site start,
      Relation.TransGen r.hierarchy.Names a b → a ≠ b ∧
        ∃ c, c ∉ r.allDefaults site start ∧ r.Passes site start c ∧ r.hierarchy.Names c b) ∧
    ((∀ c d, r.Passes site start c → Relation.ReflTransGen r.hierarchy.Extends start d →
        ¬ r.hierarchy.Names c d) →
      ((∀ a ∈ r.allDefaults site start, ∀ b ∈ r.allDefaults site start,
          a ≠ b → ¬ Relation.TransGen r.hierarchy.Names a b) ↔
        ∀ a b, r.Offers site start a → Relation.TransGen r.hierarchy.Names a b →
          ¬ r.Offers site start b)) := by
  obtain ⟨visited, hvisits, hall⟩ := r.allDefaults_eq_hits site hstart
  have hne : ∀ a b, r.Offers site start a → Relation.TransGen r.hierarchy.Names a b → a ≠ b := by
    rintro a _ ⟨⟨c, -, hca⟩, -⟩ hab rfl
    exact hacyclic a hca.1 (Relation.TransGen.mono (fun _ _ => Hierarchy.Names.supertype) a a hab)
  rw [hall]
  refine ⟨fun a ha b hb hab => ⟨hne a b (offers_of_mem_hits hstart hvisits ha) hab,
    named_of_mem_hits hstart hvisits hb⟩, fun hedges => ⟨fun hnone a b ha hab hb => ?_, ?_⟩⟩
  · have hapart := apart_of_passes hstart hvisits hedges
    exact hnone a (hapart.mem_hits_of_offers hstart hvisits ha) b
      (hapart.mem_hits_of_offers hstart hvisits hb) (hne a b ha hab) hab
  · intro hnone a ha b hb _ hab
    exact hnone a b (offers_of_mem_hits hstart hvisits ha) hab (offers_of_mem_hits hstart hvisits hb)

theorem disk_names_around :
    disk ∈ disks.hierarchy.classes ∧ disks.hierarchy.Acyclic ∧
      (∃ c, c ∉ [rounded, surface] ∧ disks.Passes (areaOn disk) disk c ∧ disks.hierarchy.Names c surface) ∧
      ∃ a b, disks.Offers (areaOn disk) disk a ∧ Relation.TransGen disks.hierarchy.Names a b ∧
        disks.Offers (areaOn disk) disk b := by
  have hdisk : disk ∈ disks.hierarchy.classes := by decide
  have hkinded : disks.hierarchy.Kinded := ⟨by decide, by decide⟩
  obtain ⟨haround, hiff⟩ := overridden_default_iff disks (areaOn disk) disk hdisk acyclic_disk
  have hnone := hiff fun c d => not_names_of_kinded hkinded hdisk (by decide)
  rw [allDefaults_disk] at haround hnone
  obtain ⟨-, hnamed⟩ := haround rounded (by simp) surface (by simp) (.single names_rounded_surface)
  refine ⟨hdisk, acyclic_disk, hnamed, ?_⟩
  by_contra hoffers
  push Not at hoffers
  exact hnone.2 hoffers rounded (by simp) surface (by simp) (by decide) (.single names_rounded_surface)

end Resolver

end CallTargets
