import CallTargets.Proofs.Hierarchy.Construction
import CallTargets.Proofs.Json.Spellings

/-!
# Loading a hierarchy again

A hierarchy that was loaded from a text, in whatever spelling, is loaded again from its own snapshot without change.

* `depth_snapshot_le`: the snapshot of what was loaded is not too deep to be read.
* `load_snapshot`: what is not too deep is loaded, and built again from its own declarations.
* `reload_snapshot`: the two put together.
-/

namespace CallTargets

namespace Hierarchy

variable {h : Hierarchy} {cs : List ClassDecl}

/-- The snapshot of a hierarchy that was built from the declarations in a text is not too deep. -/
lemma depth_snapshot_le {text : String} (htext : Json.decode Json.snapshot? text = .ok cs) :
    (ofList cs).value.snapshot.depth ≤ Json.maxDepth := by
  have hcs : (Json.ofSnapshot cs).depth ≤ Json.maxDepth :=
    Json.noDeeper_snapshot.depth_le_maxDepth (by decide) htext
  rw [Json.depth_ofSnapshot, Json.depth] at hcs
  rw [snapshot, Json.depth_ofSnapshot, Json.depth]
  have hitems : Json.depthItems ((ofList cs).value.classes.map Json.ofClass) ≤
      Json.depthItems (cs.map Json.ofClass) := by
    rw [Json.depthItems_le_iff, List.forall_mem_map]
    intro c hc
    exact Json.depthItems_le_iff.1 (Nat.le_refl _) _ (List.mem_map_of_mem (mem_of_mem_ofList hc))
  omega

/-- A hierarchy whose snapshot is not too deep is loaded from it. -/
lemma load_snapshot (hdepth : h.snapshot.depth ≤ Json.maxDepth) :
    load h.snapshot.compress = .ok ⟨h, []⟩ := by
  have hdecode : Json.decode Json.snapshot? h.snapshot.compress = .ok h.classes := by
    rw [snapshot] at hdepth ⊢
    rw [Json.readsBack_snapshot.roundTrips, Json.textDepth_compress, if_pos hdepth]
  rw [load, hdecode, Except.map, ofList_classes]

/-- **A hierarchy that was loaded is loaded again from its snapshot**, whatever spelling it was first loaded from: with the
same declarations in the same order and the same direct subclasses and implementors of each name, so that all queries
give the same answers.  No declaration is replaced. -/
theorem reload_snapshot (text : String) (loaded : Logged Hierarchy) (hload : load text = .ok loaded) :
    ∃ again, load loaded.value.snapshot.compress = .ok again ∧ again.events = [] ∧
      again.value.classes = loaded.value.classes ∧
      (∀ name, again.value.directSubclasses name = loaded.value.directSubclasses name ∧
        again.value.directImplementors name = loaded.value.directImplementors name) ∧
      ∀ name, again.value.find? name = loaded.value.find? name ∧
        again.value.subclasses name = loaded.value.subclasses name ∧
        again.value.implementors name = loaded.value.implementors name := by
  have hdepth : loaded.value.snapshot.depth ≤ Json.maxDepth := by
    rw [load] at hload
    cases htext : Json.decode Json.snapshot? text with
    | error e =>
      rw [htext] at hload
      cases hload
    | ok cs =>
      rw [htext] at hload
      cases hload
      exact depth_snapshot_le htext
  exact ⟨⟨loaded.value, []⟩, load_snapshot hdepth, rfl, rfl, fun _ => ⟨rfl, rfl⟩,
    fun _ => ⟨rfl, rfl, rfl⟩⟩

/-- A diary is a book, and all books are paper. -/
def library : Hierarchy where
  classes :=
    [⟨"a.Book", 0, none, ["a.Paper"], .topLevel, [⟨"title", 0, [], .array (.prim .char)⟩]⟩,
      ⟨"a.Diary", 0, some "a.Book", [], .topLevel, []⟩]
  ascending := by decide

/-- The library in a spelling of its own: mostly arrays, a field that is not known, and a diary that is replaced. -/
def librarySpelling : Json :=
  open Json in
  let diary := ofText "a.Diary"
  let char := .arr [ofText "primitive", ofText "char"]
  let title := .arr [ofText "title", ofNat 0, .arr [], .arr [ofText "array", char]]
  let book := ofFields [("methods", .arr [title]), ("pages", ofNat 9), ("interfaces", ofTexts ["a.Paper"]),
    ("name", ofText "a.Book")]
  .arr [.arr [.arr [diary], book, .arr [diary, ofNat 0, ofText "a.Book"]]]

lemma load_librarySpelling :
    load librarySpelling.compress = .ok ⟨library, [.duplicateClass "a.Diary"]⟩ := by
  rw [load, Json.decode, Json.parse?_compress]
  cbv

theorem reload_library :
    load librarySpelling.compress = .ok ⟨library, [.duplicateClass "a.Diary"]⟩ ∧
    ∃ again, load library.snapshot.compress = .ok again ∧ again.events = [] ∧
      again.value.classes = library.classes := by
  obtain ⟨again, hagain, hevents, hclasses, -⟩ := reload_snapshot _ _ load_librarySpelling
  exact ⟨load_librarySpelling, again, hagain, hevents, hclasses⟩

end Hierarchy

end CallTargets
