import CallTargets.Proofs.Json.Forms
import CallTargets.Proofs.Text.Characters

/-!
# The standard spelling is no deeper than others

A declaration may be spelled in many ways: as an object or an array, with its fields in any order, without those that have
a default, or with others that are passed over.  It is always written in the same way, with all fields.  If it was read
within some levels, then its standard spelling fits into these levels as well.

This needs some levels to begin with, because fields that may be left out are written as arrays and objects:
`NoDeeper least` states it for `least` levels or more.  `noDeeper_snapshot` is the result for snapshots.
-/

namespace CallTargets

namespace Json

variable {α : Type} {least levels : Nat} {write : α → Json} {read : Nat → Json → Option α}

/-- What is read within at least `least` levels is written within the same levels. -/
def NoDeeper (least : Nat) (write : α → Json) (read : Nat → Json → Option α) : Prop :=
  ∀ levels, least ≤ levels → ∀ v a, read levels v = some a → (write a).depth ≤ levels

/-! ### Arrays and fields -/

lemma depthItems_le_iff {items : List Json} :
    depthItems items ≤ levels ↔ ∀ v ∈ items, v.depth ≤ levels := by
  induction items with
  | nil => simp [depthItems]
  | cons v items ih => rw [depthItems, Nat.max_le, ih, List.forall_mem_cons]

/-- Items that are read by `mapM` are written no deeper. -/
lemma depthItems_le_of_mapM {f : Json → Option α} {items : List Json} {as : List α}
    (hf : ∀ v a, f v = some a → (write a).depth ≤ levels) (has : items.mapM f = some as) :
    depthItems (as.map write) ≤ levels := by
  rw [depthItems_le_iff, List.forall_mem_map]
  have hread : List.Forall₂ (fun a v => f v = some a) as items := (mapM_eq_some_iff.1 has).flip
  have hall : List.Forall₂ (fun a v => (write a).depth ≤ levels ∧ f v = some a) as items :=
    hread.imp fun a v hv => ⟨hf v a hv, hv⟩
  exact ((List.forall₂_and_left _ _).1 hall).1

lemma NoDeeper.items (hread : NoDeeper least write read) :
    NoDeeper (least + 1) (fun as => .arr (as.map write)) (items? read) := by
  intro levels hlevels v as has
  obtain ⟨levels, rfl⟩ : ∃ n, levels = n + 1 := ⟨levels - 1, by omega⟩
  cases v with
  | arr items =>
    rw [depth]
    exact Nat.succ_le_succ (depthItems_le_of_mapM (hread levels (by omega)) has)
  | _ => cases has

lemma exists_of_required {name : String} {f : Json → Option α} {fields : List (String × Json)} {a : α}
    (ha : required name f fields = some a) : ∃ v, f v = some a := by
  obtain ⟨v?, -, ha⟩ := Option.bind_eq_some_iff.1 ha
  obtain ⟨v, -, hv⟩ := Option.bind_eq_some_iff.1 ha
  exact ⟨v, hv⟩

lemma exists_of_optional {name : String} {default a : α} {f : Json → Option α}
    {fields : List (String × Json)} (ha : optional name default f fields = some a) :
    a = default ∨ ∃ v, f v = some a := by
  obtain ⟨v?, -, ha⟩ := Option.bind_eq_some_iff.1 ha
  cases v? with
  | none => exact Or.inl (Option.some.inj ha).symm
  | some v => exact Or.inr ⟨v, ha⟩

/-- An array in a field that may be left out. -/
lemma depth_le_of_optional {name : String} {f : Json → Option (List α)} {fields : List (String × Json)}
    {as : List α} (hlevels : 1 ≤ levels)
    (hf : ∀ v as, f v = some as → (Json.arr (as.map write)).depth ≤ levels)
    (has : optional name [] f fields = some as) : (Json.arr (as.map write)).depth ≤ levels := by
  rcases exists_of_optional has with rfl | ⟨v, hv⟩
  · exact hlevels
  · exact hf v as hv

/-! ### Declarations -/

/-- Whether or not it is part of a value that was kept, a type is written no deeper than it was read. -/
lemma noDeeper_type (kept : Bool) : NoDeeper 0 ofType (type? kept) := by
  intro levels _
  -- the bounds of a type variable are two levels further in
  induction levels using Nat.strongRecOn generalizing kept with
  | ind levels ih =>
    intro v t ht
    cases levels with
    | zero => cases ht
    | succ levels =>
      rw [type?] at ht
      split at ht
      case h_2 => cases ht
      case h_1 kept' _ =>
        split at ht
        case h_1 | h_2 | h_7 | h_8 =>
          cases ht
          rw [ofType, depth_kind]
          omega
        case h_3 =>
          obtain ⟨p, -, rfl⟩ := Option.map_eq_some_iff.1 ht
          rw [ofType, depth_value, ofText, depth]
          omega
        case h_4 v' _ =>
          obtain ⟨item, hitem, rfl⟩ := Option.map_eq_some_iff.1 ht
          rw [ofType, depth_value]
          exact Nat.succ_le_succ (ih levels (by omega) kept' (Nat.zero_le _) v' item hitem)
        case h_5 =>
          cases ht
          rw [ofType, depth_value, ofText, depth]
          omega
        case h_6 =>
          cases levels with
          | zero => cases ht
          | succ levels =>
            obtain ⟨bounds, hbounds, rfl⟩ := Option.map_eq_some_iff.1 ht
            rw [ofType, depth_value, depth, ofTypes_eq_map]
            exact Nat.succ_le_succ (Nat.succ_le_succ
              (depthItems_le_of_mapM (ih levels (by omega) kept' (Nat.zero_le _)) hbounds))
        case h_9 => cases ht

lemma noDeeper_types : NoDeeper 1 (fun ts => .arr (ofTypes ts)) types? := by
  simp only [ofTypes_eq_map]
  exact (noDeeper_type false).items

lemma noDeeper_method : NoDeeper 0 ofMethod method? := by
  intro levels _ v m hm
  cases levels with
  | zero => cases hm
  | succ levels =>
    simp only [method?, Option.bind_eq_bind, Option.bind_eq_some_iff, Option.some.injEq] at hm
    obtain ⟨fields, -, name, -, flags, -, params, hparams, result, hresult, rfl⟩ := hm
    obtain ⟨v, hv⟩ := exists_of_required hresult
    have hresult : (ofType result).depth ≤ levels := noDeeper_type false levels (Nat.zero_le _) v result hv
    -- a type is an object, so that there is a level left for the parameters
    have hlevels : 1 ≤ levels := Nat.le_trans (one_le_depth_ofType result) hresult
    have hparams : (Json.arr (ofTypes params)).depth ≤ levels := by
      rw [ofTypes_eq_map]
      refine depth_le_of_optional hlevels (fun v ts hts => ?_) hparams
      rw [← ofTypes_eq_map]
      exact noDeeper_types levels hlevels v ts hts
    rw [depth_ofMethod]
    exact Nat.succ_le_succ (Nat.max_le.2 ⟨hparams, hresult⟩)

lemma noDeeper_class : NoDeeper 2 ofClass class? := by
  intro levels hlevels v c hc
  obtain ⟨levels, rfl⟩ : ∃ n, levels = n + 1 := ⟨levels - 1, by omega⟩
  simp only [class?, Option.bind_eq_bind, Option.bind_eq_some_iff, Option.some.injEq] at hc
  obtain ⟨fields, -, name, -, flags, -, superName, -, interfaces, -, nesting, -, methods, hmethods, rfl⟩ := hc
  rw [depth_ofClass]
  exact Nat.succ_le_succ (depth_le_of_optional (by omega)
    (noDeeper_method.items levels (by omega)) hmethods)

lemma noDeeper_snapshot : NoDeeper 4 ofSnapshot snapshot? := by
  intro levels hlevels v cs hcs
  obtain ⟨levels, rfl⟩ : ∃ n, levels = n + 1 := ⟨levels - 1, by omega⟩
  obtain ⟨fields, -, hcs⟩ := Option.bind_eq_some_iff.1 hcs
  rw [depth_ofSnapshot]
  exact Nat.succ_le_succ (depth_le_of_optional (by omega)
    (noDeeper_class.items levels (by omega)) hcs)

/-- What was read from a text is written within the levels that a text may have. -/
lemma NoDeeper.depth_le_maxDepth {text : String} {a : α} (hread : NoDeeper least write read)
    (hleast : least ≤ maxDepth) (htext : decode read text = .ok a) : (write a).depth ≤ maxDepth := by
  rw [decode] at htext
  split at htext
  · rename_i b hb
    cases htext
    obtain ⟨v, -, hv⟩ := Option.bind_eq_some_iff.1 hb
    exact hread maxDepth hleast v a hv
  · cases htext

end Json

end CallTargets
