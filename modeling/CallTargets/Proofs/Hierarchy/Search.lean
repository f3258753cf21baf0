import CallTargets.Hierarchy.Search
import CallTargets.Proofs.Hierarchy.Lookup

/-!
# What a search finds

`Hierarchy.explore` visits declarations until a visit stops it or no node is left.  Its value does not depend on the
events, and `explore_induction` follows it: one case for each of the ways in which a node at the front of the stack is
dealt with.

* `Seeks.exploreFrom_eq_true_iff`: a search that stops at a goal succeeds exactly if a goal can be reached.

Cycles and names that are not declared are allowed throughout.
-/

namespace CallTargets

namespace Hierarchy

variable {h : Hierarchy}

/-! ### The induction of a search -/

section Explore

variable {σ ν : Type} {key : ν → ClassName} {absent : ν → Logged Unit}
  {visit : ν → ClassDecl → σ → Logged (Visit σ ν)}

/-- Induction along a search.  The motive relates the stack, the names seen and the state at some point of the search to
the state in which the search ends. -/
lemma explore_induction {motive : List ν → List ClassName → σ → σ → Prop}
    (nil : ∀ seen s, motive [] seen s s)
    (skip : ∀ node rest seen s t, key node ∈ seen → motive rest seen s t →
      motive (node :: rest) seen s t)
    (missing : ∀ node rest seen s t, key node ∉ seen → h.find? (key node) = none →
      motive rest (key node :: seen) s t → motive (node :: rest) seen s t)
    (stop : ∀ node rest seen s t c, key node ∉ seen → h.find? (key node) = some c →
      (visit node c s).value = .stop t → motive (node :: rest) seen s t)
    (next : ∀ node rest seen s t c s' nodes, key node ∉ seen → h.find? (key node) = some c →
      (visit node c s).value = .next s' nodes →
      motive (nodes ++ rest) (key node :: seen) s' t → motive (node :: rest) seen s t)
    (stack : List ν) (seen : List ClassName) (s : σ) :
    motive stack seen s (h.explore key absent visit stack seen s).value := by
  induction stack, seen, s using explore.induct h key with
  | case1 seen s =>
    rw [explore]
    exact nil seen s
  | case2 node rest seen s hs ih =>
    rw [explore, dif_pos hs]
    exact skip node rest seen s _ (by simpa using hs) ih
  | case3 node rest seen s hs hf ih =>
    rw [explore, dif_neg hs]
    have hs' : key node ∉ seen := by simpa using hs
    split
    · exact missing node rest seen s _ hs' hf ih
    · rename_i c hc
      exact absurd (hf.symm.trans hc) (by simp)
  | case4 node rest seen s hs c hf _ ih =>
    rw [explore, dif_neg hs]
    have hs' : key node ∉ seen := by simpa using hs
    split
    · rename_i hc
      exact absurd (hf.symm.trans hc) (by simp)
    · rename_i c' hc
      obtain rfl : c = c' := Option.some.inj (hf.symm.trans hc)
      rcases hv : (visit node c s).value with t | ⟨s', nodes⟩
      · simp only [Logged.value_bind, hv, Logged.value_pure]
        exact stop node rest seen s t c hs' hf hv
      · simp only [Logged.value_bind, hv]
        exact next node rest seen s _ c s' nodes hs' hf hv (ih s' nodes)

end Explore

/-! ### Searching for a goal -/

section Goal

variable {visit : ClassDecl → Logged (Visit Bool ClassName)} {absent : ClassName → Logged Unit}
  {Goal : ClassDecl → Prop} {Next : ClassDecl → ClassDecl → Prop}

/-- `visit` looks for a goal: it stops at one, and elsewhere it goes on with the declarations that come next. -/
structure Seeks (h : Hierarchy) (visit : ClassDecl → Logged (Visit Bool ClassName))
    (Goal : ClassDecl → Prop) (Next : ClassDecl → ClassDecl → Prop) : Prop where
  stop : ∀ c, Goal c → (visit c).value = .stop true
  next : ∀ c, ¬ Goal c → ∃ nodes, (visit c).value = .next false nodes ∧
    ∀ d, Next c d ↔ d ∈ h.classes ∧ d.name ∈ nodes

/-- A search that succeeds has a goal within reach of a name on its stack. -/
private lemma Seeks.sound (hv : h.Seeks visit Goal Next) (stack seen : List ClassName)
    (hval : (h.explore id absent (fun _ c _ => visit c) stack seen false).value = true) :
    ∃ c ∈ h.classes, c.name ∈ stack ∧ ∃ d, Relation.ReflTransGen Next c d ∧ Goal d := by
  refine explore_induction (h := h) (motive := fun stack _ s t => s = false → t = true →
    ∃ c ∈ h.classes, c.name ∈ stack ∧ ∃ d, Relation.ReflTransGen Next c d ∧ Goal d)
    ?_ ?_ ?_ ?_ ?_ stack seen false rfl hval
  · intro seen s hs ht
    exact absurd (hs.symm.trans ht) (by simp)
  · intro node rest seen s t _ ih hs ht
    obtain ⟨c, hc, hmem, hd⟩ := ih hs ht
    exact ⟨c, hc, List.mem_cons_of_mem _ hmem, hd⟩
  · intro node rest seen s t _ _ ih hs ht
    obtain ⟨c, hc, hmem, hd⟩ := ih hs ht
    exact ⟨c, hc, List.mem_cons_of_mem _ hmem, hd⟩
  · intro node rest seen s t c _ hf hstop hs ht
    obtain ⟨hc, hname⟩ := find?_eq_some_iff.1 hf
    refine ⟨c, hc, by simp [hname], c, Relation.ReflTransGen.refl, ?_⟩
    by_contra hgoal
    obtain ⟨nodes, hnext, -⟩ := hv.next c hgoal
    exact absurd (hstop.symm.trans hnext) (by simp)
  · intro node rest seen s t c s' nodes _ hf hnext ih hs ht
    obtain ⟨hc, hname⟩ := find?_eq_some_iff.1 hf
    have hgoal : ¬ Goal c := fun hg => absurd ((hv.stop c hg).symm.trans hnext) (by simp)
    obtain ⟨nodes', hnext', hiff⟩ := hv.next c hgoal
    obtain ⟨rfl, rfl⟩ : false = s' ∧ nodes' = nodes := by
      simpa using hnext'.symm.trans hnext
    obtain ⟨e, he, hmem, d, hed, hd⟩ := ih rfl ht
    rcases List.mem_append.1 hmem with hmem | hmem
    · have hce : Next c e := (hiff e).2 ⟨he, hmem⟩
      exact ⟨c, hc, by simp [hname], d, Relation.ReflTransGen.head hce hed, hd⟩
    · exact ⟨e, he, List.mem_cons_of_mem _ hmem, d, hed, hd⟩

/-- A search that fails leaves behind a set of names that holds its stack and is closed under the steps, without a goal
among the names that were not seen at the start. -/
private lemma Seeks.complete (hv : h.Seeks visit Goal Next) (stack seen : List ClassName)
    (hval : (h.explore id absent (fun _ c _ => visit c) stack seen false).value = false) :
    ∃ T : ClassName → Prop, (∀ n ∈ seen, T n) ∧ (∀ n ∈ stack, T n) ∧
      ∀ c ∈ h.classes, T c.name → c.name ∉ seen → ¬ Goal c ∧ ∀ d, Next c d → T d.name := by
  refine explore_induction (h := h) (motive := fun stack seen s t => s = false → t = false →
    ∃ T : ClassName → Prop, (∀ n ∈ seen, T n) ∧ (∀ n ∈ stack, T n) ∧
      ∀ c ∈ h.classes, T c.name → c.name ∉ seen → ¬ Goal c ∧ ∀ d, Next c d → T d.name)
    ?_ ?_ ?_ ?_ ?_ stack seen false rfl hval
  · intro seen s _ _
    exact ⟨fun n => n ∈ seen, fun n hn => hn, by simp, fun c _ hT hns => absurd hT hns⟩
  · intro node rest seen s t hns ih hs ht
    obtain ⟨T, hseen, hstack, hclosed⟩ := ih hs ht
    exact ⟨T, hseen, List.forall_mem_cons.2 ⟨hseen node hns, hstack⟩, hclosed⟩
  · intro node rest seen s t _ hf ih hs ht
    obtain ⟨T, hseen, hstack, hclosed⟩ := ih hs ht
    obtain ⟨hnode, hseen⟩ := List.forall_mem_cons.1 hseen
    refine ⟨T, hseen, List.forall_mem_cons.2 ⟨hnode, hstack⟩, fun c hc hT hns => ?_⟩
    have hne : c.name ≠ node := by
      rintro rfl
      exact absurd ((find?_name hc).symm.trans hf) (by simp)
    exact hclosed c hc hT (by simp [hne, hns])
  · intro node rest seen s t c _ _ hstop _ ht
    by_cases hgoal : Goal c
    · have hst := (hv.stop c hgoal).symm.trans hstop
      exact absurd ht (by simpa using hst.symm)
    · obtain ⟨nodes, hnext, -⟩ := hv.next c hgoal
      exact absurd (hstop.symm.trans hnext) (by simp)
  · intro node rest seen s t c s' nodes _ hf hnext ih hs ht
    obtain ⟨hc, hname⟩ := find?_eq_some_iff.1 hf
    have hgoal : ¬ Goal c := fun hg => absurd ((hv.stop c hg).symm.trans hnext) (by simp)
    obtain ⟨nodes', hnext', hiff⟩ := hv.next c hgoal
    obtain ⟨rfl, rfl⟩ : false = s' ∧ nodes' = nodes := by
      simpa using hnext'.symm.trans hnext
    obtain ⟨T, hseen, hstack, hclosed⟩ := ih rfl ht
    obtain ⟨hnode, hseen⟩ := List.forall_mem_cons.1 hseen
    obtain ⟨hnodes, hrest⟩ := List.forall_mem_append.1 hstack
    refine ⟨T, hseen, List.forall_mem_cons.2 ⟨hnode, hrest⟩, fun e he hT hns => ?_⟩
    by_cases hen : e.name = node
    · -- the declaration visited here
      have hec : e = c := eq_of_name_eq he hc (hen.trans hname.symm)
      subst hec
      exact ⟨hgoal, fun d hd => hnodes d.name ((hiff d).1 hd).2⟩
    · exact hclosed e he hT (by simp [hen, hns])

/-- **A search from a declaration succeeds exactly if a goal can be reached from it.** -/
lemma Seeks.exploreFrom_eq_true_iff (hv : h.Seeks visit Goal Next) {c : ClassDecl}
    (hc : c ∈ h.classes) :
    (h.exploreFrom id absent (fun _ c _ => visit c) c.name c false).value = true ↔
      ∃ d, Relation.ReflTransGen Next c d ∧ Goal d := by
  by_cases hgoal : Goal c
  · have hstop : (h.exploreFrom id absent (fun _ c _ => visit c) c.name c false).value = true := by
      simp only [exploreFrom, Logged.value_bind, hv.stop c hgoal, Logged.value_pure]
    exact iff_of_true hstop ⟨c, Relation.ReflTransGen.refl, hgoal⟩
  obtain ⟨nodes, hnext, hiff⟩ := hv.next c hgoal
  have hval : (h.exploreFrom id absent (fun _ c _ => visit c) c.name c false).value =
      (h.explore id absent (fun _ c _ => visit c) nodes [c.name] false).value := by
    simp only [exploreFrom, Logged.value_bind, hnext]
  rw [hval]
  constructor
  · intro htrue
    obtain ⟨e, he, hmem, d, hed, hd⟩ := hv.sound nodes [c.name] htrue
    exact ⟨d, Relation.ReflTransGen.head ((hiff e).2 ⟨he, hmem⟩) hed, hd⟩
  · rintro ⟨d, hcd, hd⟩
    by_contra hfalse
    obtain ⟨T, hseen, hstack, hclosed⟩ := hv.complete nodes [c.name] (by simpa using hfalse)
    -- along the path no goal is met and the names stay in the closed set
    have hpath : ∀ e, Relation.ReflTransGen Next c e → e ∈ h.classes ∧ T e.name ∧ ¬ Goal e := by
      intro e hce
      induction hce with
      | refl => exact ⟨hc, hseen c.name (by simp), hgoal⟩
      | @tail e f hce hef ih =>
        obtain ⟨he, hTe, hge⟩ := ih
        obtain ⟨nodes', -, hiff'⟩ := hv.next e hge
        have hf : f ∈ h.classes := ((hiff' f).1 hef).1
        have hTf : T f.name := by
          by_cases hec : e = c
          · exact hstack f.name ((hiff f).1 (hec ▸ hef)).2
          · have hns : e.name ∉ [c.name] := by
              simpa using fun hn => hec (eq_of_name_eq he hc hn)
            exact (hclosed e he hTe hns).2 f hef
        by_cases hfc : f = c
        · exact ⟨hf, hTf, hfc ▸ hgoal⟩
        · have hns : f.name ∉ [c.name] := by
            simpa using fun hn => hfc (eq_of_name_eq hf hc hn)
          exact ⟨hf, hTf, (hclosed f hf hTf hns).1⟩
    exact (hpath d hcd).2.2 hd

end Goal

end Hierarchy

end CallTargets
