import CallTargets.Hierarchy.Snapshot
import CallTargets.Proofs.Json.Depth
import Mathlib.Logic.Basic

/-!
# Reading declarations that were written

Types, nestings, methods, classes and snapshots are read back from their JSON forms, as long as these are not too deep.

* `Json.ReadsBack`: reading undoes writing exactly if the form is at most so many levels deep.  It carries over from the
  parts of a form to the whole, and from the items of an array to the array (`ReadsBack.items`).
* `Json.RoundTrips`: the same for texts, which may be `maxDepth` levels deep.
* `forms_round_trip`: all five forms make the round trip.
-/

namespace CallTargets

namespace Json

variable {α : Type}

/-- A form is read back if it is at most so many levels deep, and refused otherwise. -/
def ReadsBack (write : α → Json) (read : Nat → Json → Option α) : Prop :=
  ∀ a levels, read levels (write a) = if (write a).depth ≤ levels then some a else none

/-! ### Parts of a form -/

lemma namedFields_ofFields (fields : List (String × Json)) :
    namedFields (fields.map fun (k, v) => (some k, v)) = some fields := by
  induction fields with
  | nil => rfl
  | cons f fields ih =>
    rw [namedFields] at ih ⊢
    rw [List.map_cons, List.mapM_cons, ih]
    rfl

lemma record?_ofFields (names : List String) (fields : List (String × Json)) :
    record? names (ofFields fields) = some fields :=
  namedFields_ofFields fields

lemma readsBack_text : ReadsBack ofText (fun _ => text?) := by
  intro s levels
  exact (if_pos (Nat.zero_le levels)).symm

lemma flags?_ofNat (f : Flags) : flags? (ofNat f.toNat) = some f := by
  change (if f.toNat < UInt16.size then some f.toNat.toUInt16 else none) = some f
  rw [if_pos f.toNat_lt]
  simp

lemma superName?_ofOption (name? : Option ClassName) :
    superName? (ofOption ofText name?) = some name? := by
  cases name? with
  | none => rfl
  | some name => rfl

lemma bind_ite_none {β : Type} (p : Prop) [Decidable p] (a : α) (f : α → Option β) :
    (if p then some a else none).bind f = if p then f a else none := by
  by_cases hp : p
  · rw [if_pos hp, if_pos hp, Option.bind_some]
  · rw [if_neg hp, if_neg hp, Option.bind_none]

/-- The items of an array are read back if none of them is too deep. -/
lemma mapM_map_write {write : α → Json} {read : Json → Option α} {levels : Nat} (as : List α)
    (hread : ∀ a ∈ as, read (write a) = if (write a).depth ≤ levels then some a else none) :
    (as.map write).mapM read = if depthItems (as.map write) ≤ levels then some as else none := by
  induction as with
  | nil => rfl
  | cons a as ih =>
    obtain ⟨ha, has⟩ := List.forall_mem_cons.1 hread
    rw [List.map_cons, List.mapM_cons, ha, ih has, depthItems]
    simp only [Option.bind_eq_bind, bind_ite_none, Nat.max_le, ite_and]
    rfl

/-- An array is read back if its items are. -/
lemma ReadsBack.items {write : α → Json} {read : Nat → Json → Option α} (hread : ReadsBack write read) :
    ReadsBack (fun as => .arr (as.map write)) (items? read) := by
  intro as levels
  rw [depth]
  cases levels with
  | zero => exact (if_neg (Nat.not_succ_le_zero _)).symm
  | succ levels =>
    rw [items?, mapM_map_write as fun a _ => hread a levels]
    simp only [Nat.add_le_add_iff_right]

lemma readsBack_texts : ReadsBack ofTexts texts? :=
  readsBack_text.items

/-! ### Types -/

lemma taggedParts_kind (kind : String) (levels : Nat) :
    taggedParts false levels (ofFields [("kind", ofText kind)]) = some (kind, none, false) := by
  rw [ofFields, taggedParts, namedFields_ofFields]
  rfl

lemma taggedParts_value (kind : String) (v : Json) (levels : Nat) :
    taggedParts false levels (ofFields [("kind", ofText kind), ("value", v)]) =
      some (kind, some v, false) := by
  rw [ofFields, taggedParts, namedFields_ofFields]
  rfl

lemma depth_kind (kind : String) : (ofFields [("kind", ofText kind)]).depth = 1 := by
  simp [ofFields, depth, depthFields, ofText]

lemma depth_value (kind : String) (v : Json) :
    (ofFields [("kind", ofText kind), ("value", v)]).depth = v.depth + 1 := by
  simp [ofFields, depth, depthFields, ofText]

lemma primitive?_ofText (p : Primitive) (levels : Nat) :
    primitive? false levels (ofText p.keyword) = some p :=
  Primitive.ofKeyword?_eq_some_iff.2 rfl

lemma ofTypes_eq_map (ts : List Ty) : ofTypes ts = ts.map ofType := by
  induction ts with
  | nil => rfl
  | cons t ts ih => rw [ofTypes, ih, List.map_cons]

/-- The form of a type is an object. -/
lemma one_le_depth_ofType (t : Ty) : 1 ≤ (ofType t).depth := by
  cases t <;> rw [ofType, ofFields, depth] <;> omega

lemma readsBack_type : ReadsBack ofType (type? false)
  | t, 0 => by
    have hdepth := one_le_depth_ofType t
    rw [type?, if_neg (by omega)]
  | .void, levels + 1 => by
    rw [ofType, type?, taggedParts_kind, depth_kind, if_pos (by omega)]
    rfl
  | .prim p, levels + 1 => by
    rw [ofType, type?, taggedParts_value, depth_value, if_pos (by rw [ofText, depth]; omega)]
    change (primitive? false levels (ofText p.keyword)).map Ty.prim = _
    rw [primitive?_ofText]
    rfl
  | .array t, levels + 1 => by
    rw [ofType, type?, taggedParts_value, depth_value]
    change (type? false levels (ofType t)).map Ty.array = _
    rw [readsBack_type t levels]
    simp only [Nat.add_le_add_iff_right]
    split <;> rfl
  | .object name, levels + 1 => by
    rw [ofType, type?, taggedParts_value, depth_value, if_pos (by rw [ofText, depth]; omega)]
    rfl
  | .typeVar bounds, 1 => by
    rw [ofType, type?, taggedParts_value, depth_value, depth, if_neg (by omega)]
    rfl
  | .typeVar bounds, levels + 2 => by
    rw [ofType, type?, taggedParts_value, depth_value, depth, ofTypes_eq_map]
    change ((bounds.map ofType).mapM (type? false levels)).map Ty.typeVar = _
    rw [mapM_map_write bounds fun b _ => readsBack_type b levels]
    simp only [Nat.add_assoc, Nat.reduceAdd, Nat.add_le_add_iff_right]
    split <;> rfl
  | .unknown, levels + 1 => by
    rw [ofType, type?, taggedParts_kind, depth_kind, if_pos (by omega)]
    rfl

lemma readsBack_types : ReadsBack (fun ts => .arr (ofTypes ts)) types? := by
  simp only [ofTypes_eq_map]
  exact readsBack_type.items

/-! ### Nestings, methods and classes -/

lemma depth_ofNesting (nesting : Nesting) : (ofNesting nesting).depth = 1 := by
  cases nesting <;> simp [ofNesting, ofFields, depth, depthFields, ofText]

lemma readsBack_nesting : ReadsBack ofNesting nesting? := by
  intro nesting levels
  rw [depth_ofNesting]
  cases levels with
  | zero =>
    rw [if_neg (by omega)]
    cases nesting <;> rfl
  | succ levels =>
    rw [if_pos (by omega)]
    cases nesting <;> rw [ofNesting, ofFields, nesting?, namedFields_ofFields] <;> rfl

lemma depth_ofMethod (m : MethodDecl) : (ofMethod m).depth =
    max (Json.arr (ofTypes m.params)).depth (ofType m.result).depth + 1 := by
  simp [ofMethod, ofFields, depth, depthFields, ofText, ofNat]

lemma readsBack_method : ReadsBack ofMethod method? := by
  intro m levels
  rw [depth_ofMethod]
  cases levels with
  | zero => rw [method?, if_neg (by omega)]
  | succ levels =>
    have hfields : method? (levels + 1) (ofMethod m) =
        (flags? (ofNat m.flags.toNat)).bind fun flags =>
        (types? levels (.arr (ofTypes m.params))).bind fun params =>
        (type? false levels (ofType m.result)).bind fun result =>
          some { name := m.name, flags, params, result } := by
      rw [ofMethod, method?, record?_ofFields]
      rfl
    rw [hfields, flags?_ofNat, readsBack_types m.params levels, readsBack_type m.result levels,
      Option.bind_some, bind_ite_none, bind_ite_none]
    simp only [Nat.add_le_add_iff_right, Nat.max_le, ite_and]

lemma readsBack_methods : ReadsBack (fun ms => .arr (ms.map ofMethod)) methods? :=
  readsBack_method.items

lemma depth_ofTexts (texts : List String) : (ofTexts texts).depth = 1 := by
  rw [ofTexts, depth]
  induction texts with
  | nil => rfl
  | cons s texts ih => rw [List.map_cons, depthItems, ofText, depth, Nat.zero_max, ih]

lemma depth_ofOption_ofText (name? : Option ClassName) : (ofOption ofText name?).depth = 0 := by
  cases name? with
  | none => rfl
  | some name => rfl

/-- No part of a class is deeper than its methods. -/
lemma depth_ofClass (c : ClassDecl) :
    (ofClass c).depth = (Json.arr (c.methods.map ofMethod)).depth + 1 := by
  simp [ofClass, ofFields, depth, depthFields, ofText, ofNat, depth_ofTexts, depth_ofNesting,
    depth_ofOption_ofText]

lemma readsBack_class : ReadsBack ofClass class? := by
  intro c levels
  rw [depth_ofClass]
  cases levels with
  | zero => rw [class?, if_neg (by omega)]
  | succ levels =>
    have hfields : class? (levels + 1) (ofClass c) =
        (flags? (ofNat c.flags.toNat)).bind fun flags =>
        (superName? (ofOption ofText c.superName)).bind fun superName =>
        (texts? levels (ofTexts c.interfaces)).bind fun interfaces =>
        (nesting? levels (ofNesting c.nesting)).bind fun nesting =>
        (methods? levels (.arr (c.methods.map ofMethod))).bind fun methods =>
          some { name := c.name, flags, superName, interfaces, nesting, methods } := by
      rw [ofClass, class?, record?_ofFields]
      rfl
    rw [hfields, flags?_ofNat, superName?_ofOption, readsBack_texts c.interfaces levels,
      readsBack_nesting c.nesting levels, readsBack_methods c.methods levels, depth_ofTexts,
      depth_ofNesting, Option.bind_some, Option.bind_some, bind_ite_none, bind_ite_none, bind_ite_none]
    by_cases hlevel : 1 ≤ levels
    · rw [if_pos hlevel, if_pos hlevel]
      simp only [Nat.add_le_add_iff_right]
    · rw [if_neg hlevel, if_neg (by rw [depth]; omega)]

lemma readsBack_classes : ReadsBack (fun cs => .arr (cs.map ofClass)) classes? :=
  readsBack_class.items

lemma depth_ofSnapshot (cs : List ClassDecl) :
    (ofSnapshot cs).depth = (Json.arr (cs.map ofClass)).depth + 1 := by
  simp [ofSnapshot, ofFields, depth, depthFields]

lemma readsBack_snapshot : ReadsBack ofSnapshot snapshot? := by
  intro cs levels
  rw [depth_ofSnapshot]
  cases levels with
  | zero => rw [snapshot?, if_neg (by omega)]
  | succ levels =>
    have hfields : snapshot? (levels + 1) (ofSnapshot cs) =
        classes? levels (.arr (cs.map ofClass)) := by
      rw [ofSnapshot, snapshot?, record?_ofFields]
      rfl
    rw [hfields, readsBack_classes cs levels]
    simp only [Nat.add_le_add_iff_right]

/-! ### Texts -/

/-- A form is read back from its text if this is at most `maxDepth` levels deep, and refused otherwise. -/
def RoundTrips (write : α → Json) (read : Nat → Json → Option α) : Prop :=
  ∀ a, decode read (write a).compress =
    if textDepth (write a).compress ≤ maxDepth then .ok a else .error .malformed

lemma ReadsBack.roundTrips {write : α → Json} {read : Nat → Json → Option α}
    (hread : ReadsBack write read) : RoundTrips write read := by
  intro a
  rw [decode, parse?_compress, textDepth_compress, Option.bind_some, hread a maxDepth]
  by_cases hdepth : (write a).depth ≤ maxDepth
  · rw [if_pos hdepth, if_pos hdepth]
  · rw [if_neg hdepth, if_neg hdepth]

/-- **The forms of types, nestings, methods, classes and snapshots make the round trip.**  Whatever the texts and flags in
a declaration, its text is read back as that declaration, unless the text is too deep. -/
theorem forms_round_trip : RoundTrips ofType (type? false) ∧ RoundTrips ofNesting nesting? ∧
    RoundTrips ofMethod method? ∧ RoundTrips ofClass class? ∧ RoundTrips ofSnapshot snapshot? :=
  ⟨readsBack_type.roundTrips, readsBack_nesting.roundTrips, readsBack_method.roundTrips,
    readsBack_class.roundTrips, readsBack_snapshot.roundTrips⟩

lemma depth_ofType_repeat_array (dims : Nat) (t : Ty) :
    (ofType (dims.repeat Ty.array t)).depth = dims + (ofType t).depth := by
  induction dims with
  | zero => rw [Nat.repeat, Nat.zero_add]
  | succ dims ih =>
    rw [Nat.repeat, ofType, depth_value, ih]
    omega

/-- An array type of 126 dimensions makes the round trip, one of 127 dimensions is refused. -/
theorem array_types_round_trip :
    (let t := Nat.repeat Ty.array 126 (.object "a.\"Größe\"");
      textDepth (ofType t).compress = 127 ∧ decode (type? false) (ofType t).compress = .ok t) ∧
    (let t := Nat.repeat Ty.array 127 (.object "a.\"Größe\"");
      textDepth (ofType t).compress = 128 ∧
        decode (type? false) (ofType t).compress = .error .malformed) := by
  have hdepth (dims : Nat) :
      textDepth (ofType (dims.repeat Ty.array (.object "a.\"Größe\""))).compress = dims + 1 := by
    rw [textDepth_compress, depth_ofType_repeat_array, ofType, depth_value, ofText, depth]
  refine ⟨⟨hdepth 126, ?_⟩, hdepth 127, ?_⟩
  · rw [forms_round_trip.1, hdepth, if_pos (by decide)]
  · rw [forms_round_trip.1, hdepth, if_neg (by decide)]

end Json

end CallTargets
