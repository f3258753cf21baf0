import CallTargets.Proofs.Hierarchy.Edges
import CallTargets.Proofs.Text.ByteOrder
import Mathlib.Data.Finset.Card
import Mathlib.Data.List.Permutation
import Mathlib.Data.List.Sort

/-!
# Building a hierarchy

`Hierarchy.ofList` puts declarations in their places one after the other, and then it builds the edges.  What comes of it
is determined by the last declaration of each name: `lastNamed` says which one that is, without building anything.

* `named?_put`: what one more declaration does to look-ups.
* `find?_ofList`: looking a name up in what was built gives the last declaration of the name.
* `eq_of_find?_eq`: a hierarchy is determined by its look-ups, edges included.
* `length_events_add_length`: every declaration that was put in is still there, or an event tells that it was replaced.

`ofList_keeps_last` puts this together.
-/

namespace CallTargets

namespace Hierarchy

variable {h k : Hierarchy} {c d : ClassDecl} {cs ds : List ClassDecl} {name : ClassName}

/-! ### One more declaration -/

/-- A declaration replaces the one of its name and leaves all others as they are. -/
lemma named?_put (hds : Ascending ds) (c : ClassDecl) (name : ClassName) :
    named? (put c ds) name = if c.name = name then some c else named? ds name := by
  ext d
  rw [named?_eq_some_iff (pairwise_put c hds), mem_put_iff hds]
  split
  · rename_i hname
    rw [Option.some.injEq]
    constructor
    · rintro ⟨rfl | ⟨-, hne⟩, hd⟩
      · rfl
      · exact absurd (hd.trans hname.symm) hne
    · rintro rfl
      exact ⟨Or.inl rfl, hname⟩
  · rename_i hname
    rw [named?_eq_some_iff hds]
    constructor
    · rintro ⟨rfl | ⟨hd, -⟩, hdn⟩
      · exact absurd hdn hname
      · exact ⟨hd, hdn⟩
    · rintro ⟨hd, hdn⟩
      exact ⟨Or.inr ⟨hd, fun hdc => hname (hdc.symm.trans hdn)⟩, hdn⟩

lemma named?_isSome_iff : (named? ds name).isSome ↔ name ∈ ds.map (·.name) := by
  simp [named?]

lemma toFinset_names_put (hds : Ascending ds) (c : ClassDecl) :
    ((put c ds).map (·.name)).toFinset = Insert.insert c.name (ds.map (·.name)).toFinset := by
  ext name
  simp only [List.mem_toFinset, Finset.mem_insert, ← named?_isSome_iff, named?_put hds]
  split
  · rename_i hname
    simp [hname]
  · rename_i hname
    simp [Ne.symm hname]

lemma nodup_names (hds : Ascending ds) : (ds.map (·.name)).Nodup :=
  List.pairwise_map.2 (hds.imp fun hlt heq => absurd (heq ▸ hlt) (String.lt_irrefl _))

lemma length_eq_card_names (hds : Ascending ds) : ds.length = (ds.map (·.name)).toFinset.card := by
  rw [List.toFinset_card_of_nodup (nodup_names hds), List.length_map]

/-- The number of declarations grows by one, unless one of them is replaced. -/
lemma length_put (hds : Ascending ds) (c : ClassDecl) :
    (put c ds).length = if (named? ds c.name).isSome then ds.length else ds.length + 1 := by
  rw [length_eq_card_names (pairwise_put c hds), length_eq_card_names hds, toFinset_names_put hds,
    Finset.card_insert_eq_ite]
  simp only [List.mem_toFinset, named?_isSome_iff]

/-! ### One declaration after the other -/

/-- The last declaration of a name in a list. -/
def lastNamed (cs : List ClassDecl) (name : ClassName) : Option ClassDecl :=
  (cs.filter (·.name == name)).getLast?

lemma lastNamed_cons (c : ClassDecl) (cs : List ClassDecl) (name : ClassName) :
    lastNamed (c :: cs) name = (lastNamed cs name).or (if c.name = name then some c else none) := by
  rw [lastNamed, List.filter_cons]
  by_cases hname : c.name = name
  · rw [if_pos (beq_iff_eq.2 hname), if_pos hname, List.getLast?_cons, lastNamed]
    cases (cs.filter (·.name == name)).getLast? <;> rfl
  · rw [if_neg (mt beq_iff_eq.1 hname), if_neg hname, Option.or_none, lastNamed]

lemma lastNamed_mem (hlast : lastNamed cs name = some c) : c ∈ cs ∧ c.name = name := by
  have hmem := List.mem_filter.1 (List.mem_of_getLast? hlast)
  exact ⟨hmem.1, eq_of_beq hmem.2⟩

lemma lastNamed_isSome_iff : (lastNamed cs name).isSome ↔ name ∈ cs.map (·.name) := by
  rw [lastNamed, List.getLast?_isSome, ← List.length_pos_iff, List.length_filter_pos_iff]
  simp

/-- Where no name occurs twice, every declaration is the last of its name. -/
lemma lastNamed_eq_some_iff (hnodup : (cs.map (·.name)).Nodup) :
    lastNamed cs name = some c ↔ c ∈ cs ∧ c.name = name := by
  refine ⟨lastNamed_mem, ?_⟩
  rintro ⟨hc, rfl⟩
  obtain ⟨d, hd⟩ := Option.isSome_iff_exists.1 (lastNamed_isSome_iff.2 (List.mem_map_of_mem hc))
  obtain ⟨hdcs, hname⟩ := lastNamed_mem hd
  rw [hd, List.inj_on_of_nodup_map hnodup hdcs hc hname]

lemma value_putAll_cons (ds : List ClassDecl) (c : ClassDecl) (cs : List ClassDecl) :
    (putAll ds (c :: cs)).value = (putAll (put c ds) cs).value := by
  rw [putAll]
  split <;> rfl

/-- The declarations that are put in come before those that were there. -/
lemma named?_putAll (hds : Ascending ds) (cs : List ClassDecl) (name : ClassName) :
    named? (putAll ds cs).value name = (lastNamed cs name).or (named? ds name) := by
  induction cs generalizing ds with
  | nil => rfl
  | cons c cs ih =>
    rw [value_putAll_cons, ih (pairwise_put c hds), named?_put hds, lastNamed_cons, Option.or_assoc]
    congr 1
    split <;> rfl

/-- **Looking a name up** in what was built from a list gives the last declaration of the name. -/
lemma find?_ofList (cs : List ClassDecl) (name : ClassName) :
    (ofList cs).value.find? name = lastNamed cs name := by
  have hput := named?_putAll List.Pairwise.nil cs name
  exact hput.trans Option.or_none

lemma mem_ofList_iff : c ∈ (ofList cs).value.classes ↔ lastNamed cs c.name = some c := by
  rw [← find?_ofList, find?_eq_some_iff]
  exact (and_iff_left rfl).symm

lemma mem_of_mem_ofList (hc : c ∈ (ofList cs).value.classes) : c ∈ cs :=
  (lastNamed_mem (mem_ofList_iff.1 hc)).1

lemma toFinset_names_ofList (cs : List ClassDecl) :
    (ofList cs).value.names.toFinset = (cs.map (·.name)).toFinset := by
  ext name
  rw [List.mem_toFinset, List.mem_toFinset, ← lastNamed_isSome_iff, ← find?_ofList, names, ← named?_isSome_iff]
  rfl

/-! ### Events -/

lemma duplicateClass_of_mem_events {e : Event} (he : e ∈ (putAll ds cs).events) :
    ∃ name, e = .duplicateClass name := by
  induction cs generalizing ds with
  | nil => exact absurd he List.not_mem_nil
  | cons c cs ih =>
    rw [putAll] at he
    split at he
    · rcases List.mem_cons.1 he with rfl | he
      · exact ⟨c.name, rfl⟩
      · exact ih he
    · exact ih he

/-- Every declaration is counted once: it adds to the number, or it replaces another one and is told of. -/
lemma length_events_add_length (hds : Ascending ds) (cs : List ClassDecl) :
    (putAll ds cs).events.length + (putAll ds cs).value.length = ds.length + cs.length := by
  induction cs generalizing ds with
  | nil => exact Nat.zero_add _
  | cons c cs ih =>
    have hrest := ih (pairwise_put c hds)
    rw [length_put hds] at hrest
    rw [value_putAll_cons, putAll, List.length_cons]
    by_cases hdup : (named? ds c.name).isSome
    · rw [if_pos hdup] at hrest
      rw [if_pos hdup]
      change (putAll (put c ds) cs).events.length + 1 + _ = _
      omega
    · rw [if_neg hdup] at hrest
      rw [if_neg hdup]
      change (putAll (put c ds) cs).events.length + _ = _
      omega

lemma length_events_add_size (cs : List ClassDecl) :
    (ofList cs).events.length + (ofList cs).value.size = cs.length :=
  (length_events_add_length List.Pairwise.nil cs).trans (Nat.zero_add _)

/-! ### Equality -/

/-- **A hierarchy is determined by its look-ups**, since its edges are determined by its declarations. -/
lemma eq_of_find?_eq (hfind : ∀ name, h.find? name = k.find? name) : h = k := by
  have hmem : ∀ c, c ∈ h.classes ↔ c ∈ k.classes := by
    intro c
    have hiff : h.find? c.name = some c ↔ k.find? c.name = some c := by rw [hfind]
    simpa only [find?_eq_some_iff, and_true] using hiff
  have : Std.Irrefl fun c d : ClassDecl => c.name < d.name := ⟨fun c => String.lt_irrefl c.name⟩
  have : Std.Antisymm fun c d : ClassDecl => c.name < d.name :=
    ⟨fun c d hcd hdc => absurd hdc (String.lt_asymm hcd)⟩
  have hclasses : h.classes = k.classes := h.ascending.eq_of_mem_iff k.ascending hmem
  have hedges : h.edges = k.edges := by rw [h.edges_eq, k.edges_eq, hclasses]
  cases h
  cases k
  congr

/-- Declarations with the same last one for each name build the same hierarchy. -/
lemma ofList_eq_of_lastNamed_eq (hlast : ∀ name, lastNamed cs name = lastNamed ds name) :
    (ofList cs).value = (ofList ds).value :=
  eq_of_find?_eq fun name => by rw [find?_ofList, find?_ofList, hlast]

/-- Without repeated names the order of the declarations does not matter. -/
lemma ofList_eq_of_perm (hperm : cs.Perm ds) (hnodup : (cs.map (·.name)).Nodup) :
    (ofList cs).value = (ofList ds).value := by
  refine ofList_eq_of_lastNamed_eq fun name => Option.ext fun c => ?_
  rw [lastNamed_eq_some_iff hnodup, lastNamed_eq_some_iff ((hperm.map _).nodup_iff.1 hnodup),
    hperm.mem_iff]

/-- **A hierarchy is built again** from its own declarations, and none of them is replaced. -/
lemma ofList_classes (h : Hierarchy) : ofList h.classes = ⟨h, []⟩ := by
  have hvalue : (ofList h.classes).value = h := by
    refine eq_of_find?_eq fun name => Option.ext fun c => ?_
    rw [find?_ofList, lastNamed_eq_some_iff (nodup_names h.ascending), find?_eq_some_iff]
  have hcount := length_events_add_size h.classes
  rw [hvalue, size] at hcount
  exact Logged.ext hvalue (List.eq_nil_of_length_eq_zero (by omega))

/-! ### What is built -/

/-- The edges of a hierarchy that was built from a list are those of the last declarations. -/
lemma edges_ofList (cs : List ClassDecl) (n name : ClassName) :
    (n ∈ (ofList cs).value.directSubclasses name ↔
      ∃ c, lastNamed cs n = some c ∧ c.superName = some name) ∧
    (n ∈ (ofList cs).value.directImplementors name ↔
      ∃ c, lastNamed cs n = some c ∧ name ∈ c.interfaces) := by
  have hlast : ∀ c, c ∈ (ofList cs).value.classes ∧ c.name = n ↔ lastNamed cs n = some c := fun c => by
    rw [← find?_ofList, find?_eq_some_iff]
  constructor
  · rw [mem_directSubclasses_iff]
    exact exists_congr fun c => by rw [← hlast, and_right_comm, and_assoc]
  · rw [mem_directImplementors_iff]
    exact exists_congr fun c => by rw [← hlast, and_right_comm, and_assoc]

/-- **A hierarchy keeps the last declaration of each name and nothing else.**  Look-ups, the list of all declarations,
their number and the edges that lead to each name speak of the last declarations only, and one event is reported for each
declaration that was replaced.  The edges ascend, so that none is there twice.  Hence lists with the same last
declarations build the same hierarchy, and so do a list without repeated names and the same list in another order. -/
theorem ofList_keeps_last (cs : List ClassDecl) :
    (∀ name, (ofList cs).value.find? name = lastNamed cs name) ∧
    ((ofList cs).value.classes.Pairwise fun c d => utf8Bytes c.name < utf8Bytes d.name) ∧
    (∀ c, c ∈ (ofList cs).value.classes ↔ lastNamed cs c.name = some c) ∧
    (ofList cs).value.size = (cs.map (·.name)).toFinset.card ∧
    (∀ e ∈ (ofList cs).events, ∃ name, e = .duplicateClass name) ∧
    (ofList cs).events.length + (ofList cs).value.size = cs.length ∧
    (∀ name,
      ((ofList cs).value.directSubclasses name).Pairwise (fun m n => utf8Bytes m < utf8Bytes n) ∧
      (∀ n, n ∈ (ofList cs).value.directSubclasses name ↔
        ∃ c, lastNamed cs n = some c ∧ c.superName = some name) ∧
      ((ofList cs).value.directImplementors name).Pairwise (fun m n => utf8Bytes m < utf8Bytes n) ∧
      ∀ n, n ∈ (ofList cs).value.directImplementors name ↔
        ∃ c, lastNamed cs n = some c ∧ name ∈ c.interfaces) ∧
    (∀ ds, (∀ name, lastNamed cs name = lastNamed ds name) → (ofList cs).value = (ofList ds).value) ∧
    ∀ ds, cs.Perm ds → (cs.map (·.name)).Nodup → (ofList cs).value = (ofList ds).value := by
  have hbytes : ∀ {m n : ClassName}, m < n → utf8Bytes m < utf8Bytes n := lt_iff_utf8Bytes_lt.1
  refine ⟨find?_ofList cs, (ofList cs).value.ascending.imp hbytes, fun c => mem_ofList_iff, ?_,
    fun e => duplicateClass_of_mem_events, length_events_add_size cs,
    fun name => ⟨(pairwise_directSubclasses _ name).imp hbytes, fun n => (edges_ofList cs n name).1,
      (pairwise_directImplementors _ name).imp hbytes, fun n => (edges_ofList cs n name).2⟩,
    fun ds => ofList_eq_of_lastNamed_eq, fun ds => ofList_eq_of_perm⟩
  rw [size, length_eq_card_names (ofList cs).value.ascending]
  exact congrArg Finset.card (toFinset_names_ofList cs)

/-- A stall is declared twice, with an interface at first and without it in the end.  The shop extends itself and names
an interface twice. -/
def stalls : List ClassDecl :=
  [⟨"a.Stall", 0, some "a.Shop", ["a.Open"], .topLevel, []⟩,
    ⟨"a.Shop", 0, some "a.Shop", ["a.Open", "a.Open"], .topLevel, []⟩,
    ⟨"a.Stall", 0, some "a.Shop", [], .topLevel, []⟩]

/-- The first stall leaves no edge behind, and the shop has one to its interface. -/
theorem ofList_stalls :
    (∀ name, lastNamed stalls name = lastNamed stalls.tail name) ∧
      stalls.tail.Perm stalls.tail.reverse ∧ (stalls.tail.map (·.name)).Nodup ∧
      (ofList stalls).value = (ofList stalls.tail).value ∧
      (ofList stalls.tail).value = (ofList stalls.tail.reverse).value ∧
      (∀ n, n ∈ (ofList stalls).value.directImplementors "a.Open" ↔
        ∃ c, lastNamed stalls n = some c ∧ "a.Open" ∈ c.interfaces) ∧
      (ofList stalls).value.directImplementors "a.Open" = ["a.Shop"] ∧
      (ofList stalls).value.directSubclasses "a.Shop" = ["a.Shop", "a.Stall"] := by
  have hlast : ∀ name, lastNamed stalls name = lastNamed stalls.tail name := by
    intro name
    by_cases hname : "a.Stall" = name
    · subst hname
      decide
    · exact (lastNamed_cons _ _ _).trans (by rw [if_neg hname, Option.or_none]; rfl)
  have hperm : stalls.tail.Perm stalls.tail.reverse := (List.reverse_perm _).symm
  have hnodup : (stalls.tail.map (·.name)).Nodup := by decide
  obtain ⟨-, -, -, -, -, -, hedges, heq, -⟩ := ofList_keeps_last stalls
  obtain ⟨-, -, -, -, -, -, -, -, hreorder⟩ := ofList_keeps_last stalls.tail
  exact ⟨hlast, hperm, hnodup, heq _ hlast, hreorder _ hperm hnodup, (hedges "a.Open").2.2.2,
    by cbv, by cbv⟩

end Hierarchy

end CallTargets
