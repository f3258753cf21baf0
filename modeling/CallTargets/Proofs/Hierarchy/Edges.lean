import CallTargets.Proofs.Hierarchy.Lookup

/-!
# The edges of a hierarchy

The maps of a hierarchy are built by pushing, sorting and dropping what is repeated.  What they hold in the end is said by
the declarations alone.

* `children_push` and `children_tidy`: what the steps of the construction do to the children of a name.
* `mem_directSubclasses_iff` and `mem_directImplementors_iff`: the children of a name are the declarations that name it.
* `pairwise_directSubclasses` and `pairwise_directImplementors`: they ascend, so that none is repeated.
* `mem_below_iff`: a walk along the edges of a map finds what can be reached by them.
-/

namespace CallTargets

/-! ### Lists without repetition -/

section EraseReps

variable {α : Type} [BEq α]

private lemma eraseRepsBy_loop (a : α) (l acc : List α) :
    List.eraseRepsBy.loop (· == ·) a l acc = acc.reverse ++ List.eraseRepsBy.loop (· == ·) a l [] := by
  induction l generalizing a acc with
  | nil => simp [List.eraseRepsBy.loop]
  | cons b l ih =>
    rw [List.eraseRepsBy.loop, List.eraseRepsBy.loop]
    split
    · exact ih a acc
    · rw [ih b (a :: acc), ih b [a], List.reverse_cons, List.append_assoc]
      rfl

lemma eraseReps_cons_cons (a b : α) (l : List α) :
    (a :: b :: l).eraseReps = if a == b then (a :: l).eraseReps else a :: (b :: l).eraseReps := by
  change List.eraseRepsBy.loop (· == ·) a (b :: l) [] = _
  rw [List.eraseRepsBy.loop]
  cases a == b with
  | true => rfl
  | false => exact eraseRepsBy_loop b l [a]

lemma mem_eraseReps [LawfulBEq α] {a : α} (l : List α) : a ∈ l.eraseReps ↔ a ∈ l := by
  match l with
  | [] => rfl
  | [b] => rfl
  | b :: c :: l =>
    rw [eraseReps_cons_cons]
    split
    · rename_i hbc
      rw [mem_eraseReps (b :: l), eq_of_beq hbc]
      simp
    · rw [List.mem_cons, mem_eraseReps (c :: l), List.mem_cons (l := c :: l)]

end EraseReps

/-- In a sorted list equal names are neighbours. -/
lemma pairwise_eraseReps (l : List ClassName) (hl : l.Pairwise (· ≤ ·)) : l.eraseReps.Pairwise (· < ·) := by
  match l, hl with
  | [], _ => exact .nil
  | [a], _ => exact List.pairwise_singleton _ _
  | a :: b :: l, hl =>
    rw [eraseReps_cons_cons]
    obtain ⟨ha, hbl⟩ := List.pairwise_cons.1 hl
    split
    · rename_i hab
      rw [eq_of_beq hab]
      exact pairwise_eraseReps (b :: l) hbl
    · rename_i hab
      refine List.pairwise_cons.2 ⟨fun c hc => ?_, pairwise_eraseReps (b :: l) hbl⟩
      have hlt : a < b := Std.lt_of_le_of_ne (ha b List.mem_cons_self) fun heq => hab (beq_iff_eq.2 heq)
      rcases List.mem_cons.1 ((mem_eraseReps _).1 hc) with rfl | hc
      · exact hlt
      · exact Std.lt_of_lt_of_le hlt ((List.pairwise_cons.1 hbl).1 c hc)

/-! ### The steps of the construction -/

namespace EdgeMap

variable {m : EdgeMap} {name parent child : ClassName}

lemma children_cons (key : ClassName) (children : List ClassName) (m : EdgeMap) (name : ClassName) :
    EdgeMap.children ((key, children) :: m) name = if name = key then children else m.children name := rfl

/-- Pushing a child adds it to the children of its parent and leaves all others as they are. -/
lemma children_push (m : EdgeMap) (parent child name : ClassName) :
    (m.push parent child).children name =
      if name = parent then m.children name ++ [child] else m.children name := by
  induction m with
  | nil =>
    rw [push, children_cons]
    rfl
  | cons entry m ih =>
    obtain ⟨key, children⟩ := entry
    rw [push]
    split
    · rename_i hkey
      subst hkey
      rw [children_cons, children_cons]
      split <;> rfl
    · rename_i hkey
      rw [children_cons, ih, children_cons]
      by_cases hname : name = key
      · rw [if_pos hname, if_pos hname, if_neg (hname ▸ Ne.symm hkey)]
      · rw [if_neg hname, if_neg hname]

lemma mem_children_push {n : ClassName} :
    n ∈ (m.push parent child).children name ↔ n ∈ m.children name ∨ name = parent ∧ n = child := by
  rw [children_push]
  split
  · rename_i hname
    simp [hname]
  · rename_i hname
    simp [hname]

lemma children_tidy (m : EdgeMap) (name : ClassName) :
    m.tidy.children name = (m.children name).mergeSort.eraseReps := by
  induction m with
  | nil =>
    have hnil : ([] : List ClassName).mergeSort = [] := List.mergeSort_nil
    exact (congrArg List.eraseReps hnil).symm
  | cons entry m ih =>
    obtain ⟨key, children⟩ := entry
    change EdgeMap.children ((key, children.mergeSort.eraseReps) :: EdgeMap.tidy m) name = _
    rw [children_cons, children_cons, ih]
    split <;> rfl

lemma mem_children_tidy {n : ClassName} : n ∈ m.tidy.children name ↔ n ∈ m.children name := by
  rw [children_tidy, mem_eraseReps, List.mem_mergeSort]

lemma pairwise_children_tidy (m : EdgeMap) (name : ClassName) :
    (m.tidy.children name).Pairwise (· < ·) := by
  rw [children_tidy]
  refine pairwise_eraseReps _ ?_
  have hsorted := @List.pairwise_mergeSort ClassName (fun a b => decide (a ≤ b))
    (fun a b c hab hbc => decide_eq_true (String.le_trans (of_decide_eq_true hab) (of_decide_eq_true hbc)))
    (fun a b => by simpa using String.le_total a b) (m.children name)
  exact hsorted.imp of_decide_eq_true

end EdgeMap

/-! ### The edges of declarations -/

namespace Edges

variable {e : Edges} {c : ClassDecl} {cs : List ClassDecl} {n name : ClassName}

lemma mem_subclasses_add :
    n ∈ (e.add c).subclasses.children name ↔
      n ∈ e.subclasses.children name ∨ c.superName = some name ∧ c.name = n := by
  rw [add]
  cases hsuper : c.superName with
  | none => simp
  | some parent =>
    dsimp only
    rw [EdgeMap.mem_children_push, Option.some.injEq, eq_comm, @eq_comm _ n]

lemma mem_implementors_add :
    n ∈ (e.add c).implementors.children name ↔
      n ∈ e.implementors.children name ∨ name ∈ c.interfaces ∧ c.name = n := by
  rw [add]
  dsimp only
  generalize e.implementors = m
  induction c.interfaces generalizing m with
  | nil => simp
  | cons parent interfaces ih =>
    rw [List.foldl_cons, ih, EdgeMap.mem_children_push, List.mem_cons, or_and_right, or_assoc, @eq_comm _ n]

/-- All edges come from declarations. -/
lemma mem_foldl_add :
    (n ∈ (cs.foldl add e).subclasses.children name ↔
      n ∈ e.subclasses.children name ∨ ∃ c ∈ cs, c.superName = some name ∧ c.name = n) ∧
    (n ∈ (cs.foldl add e).implementors.children name ↔
      n ∈ e.implementors.children name ∨ ∃ c ∈ cs, name ∈ c.interfaces ∧ c.name = n) := by
  induction cs generalizing e with
  | nil => simp
  | cons c cs ih =>
    obtain ⟨hsub, himpl⟩ := ih (e := e.add c)
    rw [List.foldl_cons, hsub, himpl, mem_subclasses_add, mem_implementors_add]
    simp [or_assoc]

end Edges

namespace Hierarchy

variable {h : Hierarchy} {c d : ClassDecl} {n name : ClassName}

/-- **The subclass edges** that lead to a name are those of the classes that extend it. -/
lemma mem_directSubclasses_iff :
    n ∈ h.directSubclasses name ↔ ∃ c ∈ h.classes, c.superName = some name ∧ c.name = n := by
  rw [directSubclasses, h.edges_eq, Edges.ofClasses, EdgeMap.mem_children_tidy, Edges.mem_foldl_add.1]
  exact or_iff_right List.not_mem_nil

/-- **The implementor edges** that lead to a name are those of the declarations that name it among their interfaces. -/
lemma mem_directImplementors_iff :
    n ∈ h.directImplementors name ↔ ∃ c ∈ h.classes, name ∈ c.interfaces ∧ c.name = n := by
  rw [directImplementors, h.edges_eq, Edges.ofClasses, EdgeMap.mem_children_tidy, Edges.mem_foldl_add.2]
  exact or_iff_right List.not_mem_nil

lemma pairwise_directSubclasses (h : Hierarchy) (name : ClassName) :
    (h.directSubclasses name).Pairwise (· < ·) := by
  rw [directSubclasses, h.edges_eq]
  exact EdgeMap.pairwise_children_tidy _ name

lemma pairwise_directImplementors (h : Hierarchy) (name : ClassName) :
    (h.directImplementors name).Pairwise (· < ·) := by
  rw [directImplementors, h.edges_eq]
  exact EdgeMap.pairwise_children_tidy _ name

end Hierarchy

/-! ### Walks along the edges -/

namespace EdgeMap

variable {m : EdgeMap} {base n : ClassName} {queue seen : List ClassName}

/-- There is an edge of the map from `parent` to `child`. -/
def HasEdge (m : EdgeMap) (parent child : ClassName) : Prop := child ∈ m.children parent

/-- What a walk finds was not seen before and can be reached from its queue. -/
lemma sound_of_mem_below (hn : n ∈ m.below base queue seen) :
    n ≠ base ∧ n ∉ seen ∧ ∃ q ∈ queue, Relation.ReflTransGen m.HasEdge q n := by
  induction queue, seen using below.induct m base with
  | case1 seen =>
    rw [below] at hn
    exact absurd hn List.not_mem_nil
  | case2 next queue seen hs ih =>
    rw [below, dif_pos hs] at hn
    obtain ⟨hbase, hseen, q, hq, hpath⟩ := ih hn
    exact ⟨hbase, hseen, q, List.mem_cons_of_mem _ hq, hpath⟩
  | case3 next queue seen hs hseen ih =>
    rw [below, dif_neg hs] at hn
    rcases List.mem_cons.1 hn with rfl | hn
    · exact ⟨(not_or.1 hs).1, by simpa using hseen, n, List.mem_cons_self, .refl⟩
    · obtain ⟨hbase, hnot, q, hq, hpath⟩ := ih hn
      refine ⟨hbase, fun hmem => hnot (List.mem_cons_of_mem _ hmem), ?_⟩
      rcases List.mem_append.1 hq with hq | hq
      · exact ⟨q, List.mem_cons_of_mem _ hq, hpath⟩
      · exact ⟨next, List.mem_cons_self, Relation.ReflTransGen.head hq hpath⟩

/-- What a walk finds holds its queue and is closed under the edges, but for the names that are not looked at. -/
lemma closed_below (m : EdgeMap) (base : ClassName) (queue seen : List ClassName) :
    (∀ n ∈ queue, n ≠ base → n ∉ seen → n ∈ m.below base queue seen) ∧
      ∀ p ∈ m.below base queue seen, ∀ n, m.HasEdge p n → n ≠ base → n ∉ seen →
        n ∈ m.below base queue seen := by
  induction queue, seen using below.induct m base with
  | case1 seen =>
    rw [below]
    exact ⟨fun n hn => absurd hn List.not_mem_nil, fun p hp => absurd hp List.not_mem_nil⟩
  | case2 next queue seen hs ih =>
    rw [below, dif_pos hs]
    refine ⟨fun n hn hbase hseen => ?_, ih.2⟩
    rcases List.mem_cons.1 hn with rfl | hn
    · exact absurd hs (not_or.2 ⟨hbase, by simpa using hseen⟩)
    · exact ih.1 n hn hbase hseen
  | case3 next queue seen hs hseen ih =>
    rw [below, dif_neg hs]
    obtain ⟨hqueue, hclosed⟩ := ih
    -- the name at the front is found, so it may count as seen
    have hfound : ∀ n, (n ∉ next :: seen → n ∈ m.below base (queue ++ m.children next) (next :: seen)) →
        n ∉ seen → n ∈ next :: m.below base (queue ++ m.children next) (next :: seen) := by
      intro n hn hnot
      by_cases hnext : n = next
      · exact hnext ▸ List.mem_cons_self
      · exact List.mem_cons_of_mem _ (hn (by simp [hnext, hnot]))
    refine ⟨fun n hn hbase => hfound n fun hnot => ?_, fun p hp n hpn hbase => hfound n fun hnot => ?_⟩
    · have hn' : n ∈ queue := (List.mem_cons.1 hn).resolve_left fun heq => hnot (heq ▸ List.mem_cons_self)
      exact hqueue n (List.mem_append_left _ hn') hbase hnot
    · rcases List.mem_cons.1 hp with rfl | hp
      · exact hqueue n (List.mem_append_right _ hpn) hbase hnot
      · exact hclosed p hp n hpn hbase hnot

/-- **A walk from the children of a name** finds what can be reached from the name, the name itself excepted. -/
lemma mem_below_iff :
    n ∈ m.below base (m.children base) [] ↔ n ≠ base ∧ Relation.ReflTransGen m.HasEdge base n := by
  constructor
  · intro hn
    obtain ⟨hbase, -, q, hq, hpath⟩ := sound_of_mem_below hn
    exact ⟨hbase, Relation.ReflTransGen.head hq hpath⟩
  · rintro ⟨hbase, hpath⟩
    obtain ⟨hqueue, hclosed⟩ := m.closed_below base (m.children base) []
    induction hpath with
    | refl => exact absurd rfl hbase
    | @tail p n _ hpn ih =>
      by_cases hp : p = base
      · exact hqueue n (hp ▸ hpn) hbase List.not_mem_nil
      · exact hclosed p (ih hp) n hpn hbase List.not_mem_nil

end EdgeMap

end CallTargets
