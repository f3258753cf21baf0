import CallTargets.Proofs.Hierarchy.Search
import Mathlib.Data.List.Nodup

/-!
# Depth-first search without a stack

`Hierarchy.explore` keeps the nodes that it has yet to look at on a stack.  `DepthFirst` says what it visits by
recursion instead: a node that is visited comes first, then all that is visited from the nodes next to it, and then all
that is visited from the nodes after it.  Names that have been seen are handed on from one part to the next.

* `DepthFirst.unique`: what is visited is determined, and so is its order.
* `exists_depthFirst_explore`: a search with a stack that does not stop visits just that, in the same order.
* `DepthFirst.induction`, `DepthFirst.origin`, `DepthFirst.nodup` and `DepthFirst.visited_of_mem_stack`,
  `DepthFirst.visited_of_mem_next`: the visited nodes are those within reach, each declaration once.
-/

namespace CallTargets

namespace Hierarchy

/-- A recursive depth-first search from some nodes, with the names that have been seen before.  It yields the nodes that
are visited, in order and with their declarations, and the names that have been seen in the end. -/
inductive DepthFirst (h : Hierarchy) {ν : Type} (key : ν → ClassName) (next : ν → ClassDecl → List ν) :
    List ν → List ClassName → List (ν × ClassDecl) → List ClassName → Prop
  | done (seen : List ClassName) : DepthFirst h key next [] seen [] seen
  /-- A name that has been seen is left out. -/
  | skip {n : ν} {rest : List ν} {seen seen' : List ClassName} {vs : List (ν × ClassDecl)} :
      key n ∈ seen → DepthFirst h key next rest seen vs seen' →
      DepthFirst h key next (n :: rest) seen vs seen'
  /-- So is a name that is not declared. -/
  | missing {n : ν} {rest : List ν} {seen seen' : List ClassName} {vs : List (ν × ClassDecl)} :
      key n ∉ seen → h.find? (key n) = none → DepthFirst h key next rest (key n :: seen) vs seen' →
      DepthFirst h key next (n :: rest) seen vs seen'
  /-- A declaration is visited before all that is next to it, and that before the rest. -/
  | visit {n : ν} {c : ClassDecl} {rest : List ν} {seen mid seen' : List ClassName}
      {inner outer : List (ν × ClassDecl)} :
      key n ∉ seen → h.find? (key n) = some c →
      DepthFirst h key next (next n c) (key n :: seen) inner mid →
      DepthFirst h key next rest mid outer seen' →
      DepthFirst h key next (n :: rest) seen ((n, c) :: (inner ++ outer)) seen'

namespace DepthFirst

variable {h : Hierarchy} {ν : Type} {key : ν → ClassName} {next : ν → ClassDecl → List ν} {n : ν}
  {c : ClassDecl} {xs ys stack rest : List ν} {seen seen' : List ClassName} {vs : List (ν × ClassDecl)}

/-! ### Order -/

/-- **What is visited is determined.** -/
lemma unique {ws : List (ν × ClassDecl)} {seen'' : List ClassName}
    (hvs : h.DepthFirst key next stack seen vs seen') (hws : h.DepthFirst key next stack seen ws seen'') :
    vs = ws ∧ seen' = seen'' := by
  induction hvs generalizing ws seen'' with
  | done seen =>
    cases hws
    exact ⟨rfl, rfl⟩
  | skip hseen _ ih =>
    cases hws with
    | skip _ hrest => exact ih hrest
    | missing hnew => exact absurd hseen hnew
    | visit hnew => exact absurd hseen hnew
  | missing hnew hf _ ih =>
    cases hws with
    | skip hseen => exact absurd hseen hnew
    | missing _ _ hrest => exact ih hrest
    | visit _ hf' => exact absurd (hf.symm.trans hf') (by simp)
  | visit hnew hf _ _ ihinner ihouter =>
    cases hws with
    | skip hseen => exact absurd hseen hnew
    | missing _ hf' => exact absurd (hf.symm.trans hf') (by simp)
    | visit _ hf' hinner houter =>
      obtain rfl := Option.some.inj (hf.symm.trans hf')
      obtain ⟨rfl, rfl⟩ := ihinner hinner
      obtain ⟨rfl, rfl⟩ := ihouter houter
      exact ⟨rfl, rfl⟩

/-- Nodes are searched one after the other. -/
lemma append_iff : h.DepthFirst key next (xs ++ ys) seen vs seen' ↔
    ∃ inner mid outer, vs = inner ++ outer ∧ h.DepthFirst key next xs seen inner mid ∧
      h.DepthFirst key next ys mid outer seen' := by
  constructor
  · intro hvs
    induction xs generalizing seen vs with
    | nil => exact ⟨[], seen, vs, rfl, done seen, hvs⟩
    | cons x xs ih =>
      cases hvs with
      | skip hseen hrest =>
        obtain ⟨inner, mid, outer, rfl, hxs, hys⟩ := ih hrest
        exact ⟨inner, mid, outer, rfl, skip hseen hxs, hys⟩
      | missing hnew hf hrest =>
        obtain ⟨inner, mid, outer, rfl, hxs, hys⟩ := ih hrest
        exact ⟨inner, mid, outer, rfl, missing hnew hf hxs, hys⟩
      | visit hnew hf hnext hrest =>
        obtain ⟨inner, mid, outer, rfl, hxs, hys⟩ := ih hrest
        exact ⟨_, mid, outer, by simp, visit hnew hf hnext hxs, hys⟩
  · rintro ⟨inner, mid, outer, rfl, hxs, hys⟩
    induction hxs with
    | done seen => exact hys
    | skip hseen _ ih => exact skip hseen (ih hys)
    | missing hnew hf _ ih => exact missing hnew hf (ih hys)
    | visit hnew hf hnext _ _ ih =>
      rw [List.cons_append, List.cons_append, List.append_assoc]
      exact visit hnew hf hnext (ih hys)

/-- Visiting a node puts those next to it in front of the rest. -/
lemma cons_iff (hnew : key n ∉ seen) (hf : h.find? (key n) = some c) :
    h.DepthFirst key next (n :: rest) seen vs seen' ↔
      ∃ ws, vs = (n, c) :: ws ∧ h.DepthFirst key next (next n c ++ rest) (key n :: seen) ws seen' := by
  constructor
  · intro hvs
    cases hvs with
    | skip hseen => exact absurd hseen hnew
    | missing _ hf' => exact absurd (hf.symm.trans hf') (by simp)
    | visit _ hf' hinner houter =>
      obtain rfl := Option.some.inj (hf.symm.trans hf')
      exact ⟨_, rfl, append_iff.2 ⟨_, _, _, rfl, hinner, houter⟩⟩
  · rintro ⟨ws, rfl, hws⟩
    obtain ⟨inner, mid, outer, rfl, hinner, houter⟩ := append_iff.1 hws
    exact visit hnew hf hinner houter

lemma skip_iff (hseen : key n ∈ seen) : h.DepthFirst key next (n :: rest) seen vs seen' ↔
    h.DepthFirst key next rest seen vs seen' := by
  refine ⟨fun hvs => ?_, skip hseen⟩
  cases hvs with
  | skip _ hrest => exact hrest
  | missing hnew => exact absurd hseen hnew
  | visit hnew => exact absurd hseen hnew

lemma missing_iff (hnew : key n ∉ seen) (hf : h.find? (key n) = none) :
    h.DepthFirst key next (n :: rest) seen vs seen' ↔
      h.DepthFirst key next rest (key n :: seen) vs seen' := by
  refine ⟨fun hvs => ?_, missing hnew hf⟩
  cases hvs with
  | skip hseen => exact absurd hseen hnew
  | missing _ _ hrest => exact hrest
  | visit _ hf' => exact absurd (hf.symm.trans hf') (by simp)

/-! ### What is visited -/

/-- Every visited node stands for its declaration. -/
lemma find?_of_mem (hvs : h.DepthFirst key next stack seen vs seen') :
    ∀ v ∈ vs, h.find? (key v.1) = some v.2 := by
  induction hvs with
  | done => simp
  | skip _ _ ih => exact ih
  | missing _ _ _ ih => exact ih
  | visit _ hf _ _ ihinner ihouter =>
    exact List.forall_mem_cons.2 ⟨hf, List.forall_mem_append.2 ⟨ihinner, ihouter⟩⟩

lemma key_eq_name (hvs : h.DepthFirst key next stack seen vs seen') : ∀ v ∈ vs, key v.1 = v.2.name :=
  fun v hv => (name_of_find?_eq_some (hvs.find?_of_mem v hv)).symm

/-- What holds of the stack and is kept by going on holds of every visited node. -/
lemma induction {P : ν → Prop} (hvs : h.DepthFirst key next stack seen vs seen') (hstack : ∀ n ∈ stack, P n)
    (hnext : ∀ n c, P n → h.find? (key n) = some c → ∀ m ∈ next n c, P m) : ∀ v ∈ vs, P v.1 := by
  induction hvs with
  | done => simp
  | skip _ _ ih => exact ih (List.forall_mem_cons.1 hstack).2
  | missing _ _ _ ih => exact ih (List.forall_mem_cons.1 hstack).2
  | visit _ hf _ _ ihinner ihouter =>
    obtain ⟨hn, hrest⟩ := List.forall_mem_cons.1 hstack
    exact List.forall_mem_cons.2
      ⟨hn, List.forall_mem_append.2 ⟨ihinner (hnext _ _ hn hf), ihouter hrest⟩⟩

/-- A visited node stands on the stack or next to a visited node. -/
lemma origin (hvs : h.DepthFirst key next stack seen vs seen') :
    ∀ v ∈ vs, v.1 ∈ stack ∨ ∃ w ∈ vs, v.1 ∈ next w.1 w.2 := by
  induction hvs with
  | done => simp
  | skip _ _ ih => exact fun v hv => (ih v hv).imp_left (List.mem_cons_of_mem _)
  | missing _ _ _ ih => exact fun v hv => (ih v hv).imp_left (List.mem_cons_of_mem _)
  | @visit n c rest _ _ _ inner outer _ _ _ _ ihinner ihouter =>
    intro v hv
    rcases List.mem_cons.1 hv with rfl | hv
    · exact Or.inl List.mem_cons_self
    rcases List.mem_append.1 hv with hv | hv
    · refine Or.inr ?_
      rcases ihinner v hv with hnext | ⟨w, hw, hnext⟩
      · exact ⟨(n, c), List.mem_cons_self, hnext⟩
      · exact ⟨w, List.mem_cons_of_mem _ (List.mem_append_left _ hw), hnext⟩
    · rcases ihouter v hv with hstack | ⟨w, hw, hnext⟩
      · exact Or.inl (List.mem_cons_of_mem _ hstack)
      · exact Or.inr ⟨w, List.mem_cons_of_mem _ (List.mem_append_right _ hw), hnext⟩

/-! ### What has been seen -/

lemma seen_subset (hvs : h.DepthFirst key next stack seen vs seen') : seen ⊆ seen' := by
  induction hvs with
  | done => exact List.Subset.refl _
  | skip _ _ ih => exact ih
  | missing _ _ _ ih => exact List.Subset.trans (List.subset_cons_self _ _) ih
  | visit _ _ _ _ ihinner ihouter =>
    exact List.Subset.trans (List.subset_cons_self _ _) (List.Subset.trans ihinner ihouter)

lemma key_mem_seen_of_mem_stack (hvs : h.DepthFirst key next stack seen vs seen') :
    ∀ n ∈ stack, key n ∈ seen' := by
  induction hvs with
  | done => simp
  | skip hseen hrest ih => exact List.forall_mem_cons.2 ⟨hrest.seen_subset hseen, ih⟩
  | missing _ _ hrest ih => exact List.forall_mem_cons.2 ⟨hrest.seen_subset List.mem_cons_self, ih⟩
  | visit _ _ hinner houter _ ih =>
    exact List.forall_mem_cons.2 ⟨houter.seen_subset (hinner.seen_subset List.mem_cons_self), ih⟩

lemma key_mem_seen_of_mem_next (hvs : h.DepthFirst key next stack seen vs seen') :
    ∀ v ∈ vs, ∀ m ∈ next v.1 v.2, key m ∈ seen' := by
  induction hvs with
  | done => simp
  | skip _ _ ih => exact ih
  | missing _ _ _ ih => exact ih
  | visit _ _ hinner houter ihinner ihouter =>
    refine List.forall_mem_cons.2 ⟨fun m hm => ?_, List.forall_mem_append.2 ⟨fun v hv m hm => ?_, ihouter⟩⟩
    · exact houter.seen_subset (hinner.key_mem_seen_of_mem_stack m hm)
    · exact houter.seen_subset (ihinner v hv m hm)

/-- A visited name had not been seen before, and has been seen in the end. -/
lemma key_mem_seen (hvs : h.DepthFirst key next stack seen vs seen') :
    ∀ v ∈ vs, key v.1 ∉ seen ∧ key v.1 ∈ seen' := by
  induction hvs with
  | done => simp
  | skip _ _ ih => exact ih
  | missing _ _ _ ih =>
    exact fun v hv => ⟨fun hseen => (ih v hv).1 (List.mem_cons_of_mem _ hseen), (ih v hv).2⟩
  | visit hnew _ hinner houter ihinner ihouter =>
    refine List.forall_mem_cons.2 ⟨⟨hnew, houter.seen_subset (hinner.seen_subset List.mem_cons_self)⟩,
      List.forall_mem_append.2 ⟨fun v hv => ⟨fun hseen => ?_, ?_⟩, fun v hv => ⟨fun hseen => ?_, ?_⟩⟩⟩
    · exact (ihinner v hv).1 (List.mem_cons_of_mem _ hseen)
    · exact houter.seen_subset (ihinner v hv).2
    · exact (ihouter v hv).1 (hinner.seen_subset (List.mem_cons_of_mem _ hseen))
    · exact (ihouter v hv).2

/-- Nothing is new among the names seen but what was visited and what is not declared. -/
lemma mem_seen_cases (hvs : h.DepthFirst key next stack seen vs seen') :
    ∀ x ∈ seen', x ∈ seen ∨ h.find? x = none ∨ ∃ v ∈ vs, key v.1 = x := by
  induction hvs with
  | done => exact fun x hx => Or.inl hx
  | skip _ _ ih => exact ih
  | missing _ hf _ ih =>
    intro x hx
    rcases ih x hx with hx | hx
    · rcases List.mem_cons.1 hx with rfl | hx
      · exact Or.inr (Or.inl hf)
      · exact Or.inl hx
    · exact Or.inr hx
  | @visit n c _ _ _ _ inner outer _ _ _ _ ihinner ihouter =>
    intro x hx
    rcases ihouter x hx with hx | hx | ⟨v, hv, rfl⟩
    · rcases ihinner x hx with hx | hx | ⟨v, hv, rfl⟩
      · rcases List.mem_cons.1 hx with rfl | hx
        · exact Or.inr (Or.inr ⟨(n, c), List.mem_cons_self, rfl⟩)
        · exact Or.inl hx
      · exact Or.inr (Or.inl hx)
      · exact Or.inr (Or.inr ⟨v, List.mem_cons_of_mem _ (List.mem_append_left _ hv), rfl⟩)
    · exact Or.inr (Or.inl hx)
    · exact Or.inr (Or.inr ⟨v, List.mem_cons_of_mem _ (List.mem_append_right _ hv), rfl⟩)

/-! ### Each declaration once, and all within reach -/

/-- No name is visited twice. -/
lemma nodup (hvs : h.DepthFirst key next stack seen vs seen') : (vs.map fun v => key v.1).Nodup := by
  induction hvs with
  | done => simp
  | skip _ _ ih => exact ih
  | missing _ _ _ ih => exact ih
  | @visit n c _ _ _ _ inner outer _ _ hinner houter ihinner ihouter =>
    rw [List.map_cons, List.nodup_cons, List.map_append, List.nodup_append]
    refine ⟨?_, ihinner, ihouter, ?_⟩
    · rw [← List.map_append]
      intro hmem
      obtain ⟨v, hv, hkey⟩ := List.mem_map.1 hmem
      rcases List.mem_append.1 hv with hv | hv
      · exact (hinner.key_mem_seen v hv).1 (hkey ▸ List.mem_cons_self)
      · exact (houter.key_mem_seen v hv).1 (hkey ▸ hinner.seen_subset List.mem_cons_self)
    · intro x hx y hy hxy
      obtain ⟨v, hv, rfl⟩ := List.mem_map.1 hx
      obtain ⟨w, hw, rfl⟩ := List.mem_map.1 hy
      exact (houter.key_mem_seen w hw).1 (hxy ▸ (hinner.key_mem_seen v hv).2)

lemma eq_of_key_eq (hvs : h.DepthFirst key next stack seen vs seen') {v w : ν × ClassDecl} (hv : v ∈ vs)
    (hw : w ∈ vs) (hkey : key v.1 = key w.1) : v = w :=
  List.inj_on_of_nodup_map hvs.nodup hv hw hkey

/-- A declaration that has been seen in the end, and not at the start, was visited. -/
private lemma visited_of_mem_seen (hvs : h.DepthFirst key next stack [] vs seen') (hc : c ∈ h.classes)
    (hseen : c.name ∈ seen') : ∃ n, key n = c.name ∧ (n, c) ∈ vs := by
  rcases hvs.mem_seen_cases _ hseen with hnil | hnone | ⟨v, hv, hkey⟩
  · exact absurd hnil (by simp)
  · exact absurd ((find?_name hc).symm.trans hnone) (by simp)
  · have hfind := hvs.find?_of_mem v hv
    rw [hkey, find?_name hc] at hfind
    obtain rfl := Option.some.inj hfind
    exact ⟨v.1, hkey, hv⟩

lemma visited_of_mem_stack (hvs : h.DepthFirst key next stack [] vs seen') (hc : c ∈ h.classes)
    (hn : n ∈ stack) (hkey : key n = c.name) : ∃ m, key m = c.name ∧ (m, c) ∈ vs :=
  hvs.visited_of_mem_seen hc (hkey ▸ hvs.key_mem_seen_of_mem_stack n hn)

lemma visited_of_mem_next (hvs : h.DepthFirst key next stack [] vs seen') (hc : c ∈ h.classes)
    {v : ν × ClassDecl} (hv : v ∈ vs) (hn : n ∈ next v.1 v.2) (hkey : key n = c.name) :
    ∃ m, key m = c.name ∧ (m, c) ∈ vs :=
  hvs.visited_of_mem_seen hc (hkey ▸ hvs.key_mem_seen_of_mem_next v hv n hn)

end DepthFirst

/-! ### The search with a stack -/

section Explore

variable {h : Hierarchy} {σ ν : Type} {key : ν → ClassName} {absent : ν → Logged Unit}
  {visit : ν → ClassDecl → σ → Logged (Visit σ ν)} {step : σ → ν × ClassDecl → σ}
  {next : ν → ClassDecl → List ν}

/-- **A search with a stack that never stops** visits what the recursive search visits, in the same order. -/
lemma exists_depthFirst_explore
    (hvisit : ∀ n c s, (visit n c s).value = .next (step s (n, c)) (next n c)) (stack : List ν)
    (seen : List ClassName) (s : σ) :
    ∃ vs seen', h.DepthFirst key next stack seen vs seen' ∧
      (h.explore key absent visit stack seen s).value = vs.foldl step s := by
  refine explore_induction (h := h) (motive := fun stack seen s t =>
    ∃ vs seen', h.DepthFirst key next stack seen vs seen' ∧ t = vs.foldl step s) ?_ ?_ ?_ ?_ ?_ stack seen s
  · intro seen s
    exact ⟨[], seen, .done seen, rfl⟩
  · rintro node rest seen s t hseen ⟨vs, seen', hvs, rfl⟩
    exact ⟨vs, seen', .skip hseen hvs, rfl⟩
  · rintro node rest seen s t hnew hf ⟨vs, seen', hvs, rfl⟩
    exact ⟨vs, seen', .missing hnew hf hvs, rfl⟩
  · intro node rest seen s t c _ _ hstop
    exact absurd ((hvisit node c s).symm.trans hstop) (by simp)
  · rintro node rest seen s t c s' nodes hnew hf hnext ⟨vs, seen', hvs, rfl⟩
    obtain ⟨rfl, rfl⟩ : step s (node, c) = s' ∧ next node c = nodes := by
      simpa using (hvisit node c s).symm.trans hnext
    exact ⟨(node, c) :: vs, seen', (DepthFirst.cons_iff hnew hf).2 ⟨vs, rfl, hvs⟩, rfl⟩

/-- A search from a declaration of the hierarchy is a search from its node alone. -/
lemma value_exploreFrom {n : ν} {c : ClassDecl} (hc : c ∈ h.classes) (hkey : key n = c.name) (s : σ) :
    (h.exploreFrom key absent visit n c s).value = (h.explore key absent visit [n] [] s).value := by
  have hfind : h.find? (key n) = some c := hkey ▸ find?_name hc
  rw [explore, dif_neg (by simp), exploreFrom, ← hkey]
  split
  · rename_i hf
    exact absurd (hfind.symm.trans hf) (by simp)
  · rename_i d hf
    obtain rfl := Option.some.inj (hfind.symm.trans hf)
    rcases hv : (visit n c s).value with t | ⟨s', nodes⟩ <;>
      simp only [Logged.value_bind, hv, List.append_nil]

end Explore

end Hierarchy

end CallTargets
