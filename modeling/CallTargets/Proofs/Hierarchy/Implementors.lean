import CallTargets.Proofs.Hierarchy.Edges

/-!
# The queue of interfaces

`Hierarchy.implementorNames` takes interfaces from a queue.  What it has found at any time is told by the interfaces
that it has visited: `Gathering` is this invariant.  It is kept when an interface that was visited is skipped and when
one is visited, and at the end the queue is empty, so the visited interfaces are all that can be reached.

* `mem_foldl_meet_queue` and `mem_foldl_meet_found`: what a visit adds to the queue and to what was found.
* `mem_implementorNames_iff`: what is found in the end.

A class that was found before is not looked at again.  Nothing is lost by that, because the subclasses of a class are
found together with it.
-/

namespace CallTargets

namespace Hierarchy

/-- The name `n` is declared as an interface that names `m` among its interfaces. -/
def RefinedBy (h : Hierarchy) (m n : ClassName) : Prop :=
  ∃ c ∈ h.classes, c.isInterface = true ∧ m ∈ c.interfaces ∧ c.name = n

/-- The name `n` is that of a class that names `i` among its interfaces, or subclass edges lead there from one. -/
def Provides (h : Hierarchy) (i n : ClassName) : Prop :=
  ∃ c ∈ h.classes, c.isInterface = false ∧ i ∈ c.interfaces ∧
    Relation.ReflTransGen h.edges.subclasses.HasEdge c.name n

/-- With every name, `found` holds its subclasses. -/
def Closed (h : Hierarchy) (found : List ClassName) : Prop :=
  ∀ n ∈ found, ∀ x, Relation.ReflTransGen h.edges.subclasses.HasEdge n x → x ∈ found

variable {h : Hierarchy} {c : ClassDecl} {name n x i : ClassName} {queue visited found ns : List ClassName}
  {s : List ClassName × List ClassName}

lemma mem_subclassNames_iff :
    x ∈ h.subclassNames n ↔ x ≠ n ∧ Relation.ReflTransGen h.edges.subclasses.HasEdge n x :=
  EdgeMap.mem_below_iff

lemma mem_cons_subclassNames_iff :
    x ∈ n :: h.subclassNames n ↔ Relation.ReflTransGen h.edges.subclasses.HasEdge n x := by
  rw [List.mem_cons, mem_subclassNames_iff]
  by_cases hx : x = n
  · simp [hx, Relation.ReflTransGen.refl]
  · simp [hx]

/-! ### Visiting an interface -/

lemma meet_of_interface (hf : h.find? n = some c) (hc : c.isInterface = true) :
    h.meet s n = (s.1 ++ [n], s.2) := by
  simp [meet, hf, hc]

lemma fst_meet_of_class (hf : h.find? n = some c) (hc : c.isInterface = false) : (h.meet s n).1 = s.1 := by
  by_cases hn : n ∈ s.2 <;> simp [meet, hf, hc, hn]

/-- A class is found together with its subclasses, also where it is not looked at again. -/
lemma mem_meet_of_class (hclosed : h.Closed s.2) (hf : h.find? n = some c) (hc : c.isInterface = false) :
    x ∈ (h.meet s n).2 ↔ x ∈ s.2 ∨ Relation.ReflTransGen h.edges.subclasses.HasEdge n x := by
  by_cases hn : n ∈ s.2
  · have hsame : (h.meet s n).2 = s.2 := by simp [meet, hf, hc, hn]
    rw [hsame]
    exact ⟨Or.inl, fun hx => hx.elim id (hclosed n hn x)⟩
  · have hmore : (h.meet s n).2 = s.2 ++ n :: h.subclassNames n := by simp [meet, hf, hc, hn]
    rw [hmore, List.mem_append, mem_cons_subclassNames_iff]

/-- The interfaces among some names are put into the queue. -/
lemma mem_foldl_meet_queue (hns : ∀ n ∈ ns, (h.find? n).isSome) :
    x ∈ (ns.foldl h.meet s).1 ↔ x ∈ s.1 ∨ x ∈ ns ∧ ∃ c, h.find? x = some c ∧ c.isInterface = true := by
  induction ns generalizing s with
  | nil => simp
  | cons n ns ih =>
    obtain ⟨hn, hns⟩ := List.forall_mem_cons.1 hns
    obtain ⟨c, hf⟩ := Option.isSome_iff_exists.1 hn
    rw [List.foldl_cons, ih hns, List.mem_cons]
    cases hc : c.isInterface with
    | true =>
      rw [meet_of_interface hf hc, List.mem_append, List.mem_singleton, or_assoc, or_and_right]
      refine or_congr_right (or_congr_left ⟨?_, And.left⟩)
      rintro rfl
      exact ⟨rfl, c, hf, hc⟩
    | false =>
      rw [fst_meet_of_class hf hc, or_and_right]
      refine or_congr_right ⟨Or.inr, fun hx => hx.resolve_left ?_⟩
      rintro ⟨rfl, d, hd, hint⟩
      obtain rfl : c = d := Option.some.inj (hf.symm.trans hd)
      exact absurd (hc.symm.trans hint) (by simp)

lemma Closed.meet (hclosed : h.Closed s.2) (n : ClassName) : h.Closed (h.meet s n).2 := by
  cases hf : h.find? n with
  | none => simpa [Hierarchy.meet, hf] using hclosed
  | some c =>
    cases hc : c.isInterface with
    | true => rwa [meet_of_interface hf hc]
    | false =>
      intro m hm x hmx
      rw [mem_meet_of_class hclosed hf hc] at hm ⊢
      exact hm.imp (fun hm => hclosed m hm x hmx) fun hnm => hnm.trans hmx

/-- The classes among some names are found, with their subclasses. -/
lemma mem_foldl_meet_found (hclosed : h.Closed s.2) (hns : ∀ n ∈ ns, (h.find? n).isSome) :
    x ∈ (ns.foldl h.meet s).2 ↔ x ∈ s.2 ∨ ∃ n ∈ ns, (∃ c, h.find? n = some c ∧ c.isInterface = false) ∧
      Relation.ReflTransGen h.edges.subclasses.HasEdge n x := by
  induction ns generalizing s with
  | nil => simp
  | cons n ns ih =>
    obtain ⟨hn, hns⟩ := List.forall_mem_cons.1 hns
    obtain ⟨c, hf⟩ := Option.isSome_iff_exists.1 hn
    simp only [List.foldl_cons, ih (hclosed.meet n) hns, List.mem_cons, exists_eq_or_imp]
    cases hc : c.isInterface with
    | true =>
      rw [meet_of_interface hf hc]
      refine or_congr_right ⟨Or.inr, fun hx => hx.resolve_left ?_⟩
      rintro ⟨⟨d, hd, hcls⟩, -⟩
      obtain rfl : c = d := Option.some.inj (hf.symm.trans hd)
      exact absurd (hc.symm.trans hcls) (by simp)
    | false =>
      rw [mem_meet_of_class hclosed hf hc, or_assoc]
      exact or_congr_right (or_congr_left (and_iff_right ⟨c, hf, hc⟩).symm)

/-! ### The loop -/

/-- Where the loop that starts at `name` stands: what was visited or waits can be reached, the interfaces that extend a
visited one wait or were visited too, and what was found is what the visited interfaces provide. -/
structure Gathering (h : Hierarchy) (name : ClassName) (queue visited found : List ClassName) : Prop where
  reached : ∀ i, i ∈ visited ∨ i ∈ queue → Relation.ReflTransGen h.RefinedBy name i
  started : name ∈ visited ∨ name ∈ queue
  waiting : ∀ i ∈ visited, ∀ j, h.RefinedBy i j → j ∈ visited ∨ j ∈ queue
  found_iff : ∀ x, x ∈ found ↔ ∃ i ∈ visited, h.Provides i x

lemma gathering_start (h : Hierarchy) (name : ClassName) : h.Gathering name [name] [] [] where
  reached i hi := by
    obtain rfl : i = name := by simpa using hi
    exact .refl
  started := Or.inr List.mem_cons_self
  waiting i hi := absurd hi List.not_mem_nil
  found_iff x := by simp

namespace Gathering

lemma closed (hg : h.Gathering name queue visited found) : h.Closed found := by
  intro n hn x hnx
  obtain ⟨i, hi, c, hc, hcls, hic, hcn⟩ := (hg.found_iff n).1 hn
  exact (hg.found_iff x).2 ⟨i, hi, c, hc, hcls, hic, hcn.trans hnx⟩

/-- An interface that was visited may be skipped. -/
lemma skip (hg : h.Gathering name (i :: queue) visited found) (hi : i ∈ visited) :
    h.Gathering name queue visited found := by
  have hmem : ∀ j, j ∈ visited ∨ j ∈ i :: queue → j ∈ visited ∨ j ∈ queue := by
    rintro j (hj | hj)
    · exact Or.inl hj
    · rcases List.mem_cons.1 hj with rfl | hj
      · exact Or.inl hi
      · exact Or.inr hj
  exact ⟨fun j hj => hg.reached j (hj.imp_right (List.mem_cons_of_mem _)), hmem _ hg.started,
    fun j hj k hjk => hmem k (hg.waiting j hj k hjk), hg.found_iff⟩

/-- Those that name an interface are all declared, so a visit puts each of them into the queue or finds it. -/
lemma visit (hg : h.Gathering name (i :: queue) visited found) :
    h.Gathering name ((h.directImplementors i).foldl h.meet (queue, found)).1 (i :: visited)
      ((h.directImplementors i).foldl h.meet (queue, found)).2 := by
  have hdeclared : ∀ n ∈ h.directImplementors i, (h.find? n).isSome := by
    intro n hn
    obtain ⟨c, hc, -, rfl⟩ := mem_directImplementors_iff.1 hn
    simp [find?_name hc]
  have hqueue : ∀ j, j ∈ ((h.directImplementors i).foldl h.meet (queue, found)).1 ↔
      j ∈ queue ∨ h.RefinedBy i j := by
    intro j
    rw [mem_foldl_meet_queue hdeclared, mem_directImplementors_iff]
    refine or_congr_right ⟨?_, ?_⟩
    · rintro ⟨⟨c, hc, hic, rfl⟩, d, hd, hint⟩
      obtain rfl : c = d := Option.some.inj ((find?_name hc).symm.trans hd)
      exact ⟨c, hc, hint, hic, rfl⟩
    · rintro ⟨c, hc, hint, hic, rfl⟩
      exact ⟨⟨c, hc, hic, rfl⟩, c, find?_name hc, hint⟩
  -- what is taken from the queue counts as visited
  have hmem : ∀ j, j ∈ visited ∨ j ∈ i :: queue →
      j ∈ i :: visited ∨ j ∈ ((h.directImplementors i).foldl h.meet (queue, found)).1 := by
    rintro j (hj | hj)
    · exact Or.inl (List.mem_cons_of_mem _ hj)
    · rcases List.mem_cons.1 hj with rfl | hj
      · exact Or.inl List.mem_cons_self
      · exact Or.inr ((hqueue j).2 (Or.inl hj))
  refine ⟨?_, hmem _ hg.started, ?_, ?_⟩
  · intro j hj
    rw [hqueue, List.mem_cons] at hj
    have hi := hg.reached i (Or.inr List.mem_cons_self)
    rcases hj with (rfl | hj) | hj | hij
    · exact hi
    · exact hg.reached j (Or.inl hj)
    · exact hg.reached j (Or.inr (List.mem_cons_of_mem _ hj))
    · exact hi.tail hij
  · intro j hj k hjk
    rcases List.mem_cons.1 hj with rfl | hj
    · exact Or.inr ((hqueue k).2 (Or.inr hjk))
    · exact hmem k (hg.waiting j hj k hjk)
  · intro x
    have hclosed : h.Closed (queue, found).2 := hg.closed
    simp only [mem_foldl_meet_found hclosed hdeclared, hg.found_iff, List.mem_cons, exists_eq_or_imp]
    rw [or_comm]
    refine or_congr_left ⟨?_, ?_⟩
    · rintro ⟨n, hn, ⟨d, hd, hcls⟩, hnx⟩
      obtain ⟨c, hc, hic, rfl⟩ := mem_directImplementors_iff.1 hn
      obtain rfl : c = d := Option.some.inj ((find?_name hc).symm.trans hd)
      exact ⟨c, hc, hcls, hic, hnx⟩
    · rintro ⟨c, hc, hcls, hic, hcx⟩
      exact ⟨c.name, mem_directImplementors_iff.2 ⟨c, hc, hic, rfl⟩, ⟨c, find?_name hc, hcls⟩, hcx⟩

/-- The loop keeps the invariant until the queue is empty. -/
lemma run (hg : h.Gathering name queue visited found) :
    ∃ visited', h.Gathering name [] visited' (h.implementorNames queue visited found) := by
  induction queue, visited, found using implementorNames.induct h with
  | case1 visited found =>
    rw [implementorNames]
    exact ⟨visited, hg⟩
  | case2 i queue visited found hs ih =>
    rw [implementorNames, dif_pos hs]
    exact ih (hg.skip (by simpa using hs))
  | case3 i queue visited found hs _ _ ih =>
    rw [implementorNames, dif_neg hs]
    exact ih hg.visit

end Gathering

/-- **What the loop finds** is what the interfaces provide that can be reached from the first one. -/
lemma mem_implementorNames_iff :
    x ∈ h.implementorNames [name] [] [] ↔
      ∃ i, Relation.ReflTransGen h.RefinedBy name i ∧ h.Provides i x := by
  -- with an empty queue the visited interfaces are closed under the edges
  obtain ⟨visited, hg⟩ := (gathering_start h name).run
  have hvisited : ∀ i, i ∈ visited ↔ Relation.ReflTransGen h.RefinedBy name i := by
    intro i
    refine ⟨fun hi => hg.reached i (Or.inl hi), fun hi => ?_⟩
    induction hi with
    | refl => exact hg.started.resolve_right List.not_mem_nil
    | @tail j k _ hjk ih => exact (hg.waiting j ih k hjk).resolve_right List.not_mem_nil
  rw [hg.found_iff]
  exact exists_congr fun i => and_congr_left fun _ => hvisited i

end Hierarchy

end CallTargets
