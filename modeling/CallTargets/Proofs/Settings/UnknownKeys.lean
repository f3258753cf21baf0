import CallTargets.Proofs.Text.ByteOrder
import CallTargets.Settings.Document
import Mathlib.Data.List.TakeWhile

/-!
# Keys that are not known

A document of settings may hold keys that are not known, next to the sections and within them.  Each of them is reported
by its path, once, in ascending order; what stands below such a key is not looked at.  Apart from the report they do not
count: the document without them (`pruned`) gives the same settings.

The sections are looked up in the document, and their entries in the section.  So all that has to be shown about leaving
keys out is what it does to looking up a key (`lookup_keep`, `lookup_pruned`).

* `mem_unknownPaths_iff`, `pairwise_unknownPaths`: what is reported.
* `settings?_pruned`: the settings of a document without the keys that are not known.
* `Settings.unknown_keys_change_nothing`: both together, for a document that is loaded.
-/

namespace CallTargets

namespace SettingsDocument

open Toml (Value Table)

variable {document entries : Table} {name key raw path : String} {keys : List String}

/-! ### Which keys are not known -/

/-- The sections with their keys. -/
def schema : List (String × List String) :=
  [("resolve", ["ignore_not_found", "serializable_only", "max_implementors", "inner_constructor_fix"]),
    ("logging", ["level", "json", "file"])]

/-- The path of a key that is not known: it is no section, or it stands in a section that does not have it. -/
inductive UnknownPath (document : Table) : String → Prop
  | beside {key : String} : key ∈ document.map Prod.fst → key ∉ schema.map Prod.fst → UnknownPath document key
  | within {name key : String} {keys : List String} {entries : Table} : (name, keys) ∈ schema →
      document.lookup name = some (.table entries) → key ∈ entries.map Prod.fst → key ∉ keys →
      UnknownPath document (name ++ "." ++ key)

/-- `path` is `raw` without the dots in front of it. -/
def Undotted (raw path : String) : Prop :=
  ∃ dots, raw.toList = List.replicate dots '.' ++ path.toList ∧ path.toList.head? ≠ some '.'

/-- The sections that are there are tables. -/
def SectionsAreTables (document : Table) : Prop :=
  ∀ name ∈ schema.map Prod.fst, ∀ v, document.lookup name = some v → ∃ entries, v = .table entries

/-- Whether a value is a table. -/
def isTable : Value → Bool
  | .table _ => true
  | _ => false

lemma isTable_eq_true_iff {v : Value} : isTable v = true ↔ ∃ entries, v = .table entries := by
  cases v <;> simp [isTable]

instance (document : Table) : Decidable (SectionsAreTables document) :=
  decidable_of_iff (∀ name ∈ schema.map Prod.fst, (document.lookup name).all isTable = true) <| by
    simp only [SectionsAreTables, Option.all_eq_true, isTable_eq_true_iff]

/-! ### Leaving out keys -/

/-- The entries with certain keys. -/
def keep (keys : List String) (entries : Table) : Table := entries.filter fun entry => keys.contains entry.1

/-- A section with certain keys. -/
def keepIn (keys : List String) : Value → Value
  | .table entries => .table (keep keys entries)
  | v => v

/-- A document without the keys that are not known. -/
def pruned (document : Table) : Table :=
  (keep (schema.map Prod.fst) document).map fun entry =>
    (entry.1, keepIn ((schema.lookup entry.1).getD []) entry.2)

lemma lookup_eq_find? (entries : Table) (key : String) :
    entries.lookup key = (entries.find? (·.1 == key)).map Prod.snd := by
  induction entries with
  | nil => rfl
  | cons entry entries ih =>
    rw [List.lookup_cons, List.find?_cons, ih, Bool.beq_comm]
    cases entry.1 == key <;> rfl

lemma get_eq {α : Type} (entries : Table) (key : String) (default : α) (read : Value → Option α) :
    get entries key default read = (entries.lookup key).elim (some default) read := by
  rw [get, lookup_eq_find?]
  cases entries.find? (·.1 == key) <;> rfl

lemma lookup_keep (hkey : key ∈ keys) : (keep keys entries).lookup key = entries.lookup key := by
  rw [lookup_eq_find?, lookup_eq_find?, keep, List.find?_filter]
  congr 2
  funext entry
  by_cases hentry : entry.1 = key
  · simp [hentry, hkey]
  · simp [hentry]

lemma lookup_map_snd (f : String → Value → Value) (entries : Table) (key : String) :
    (entries.map fun entry => (entry.1, f entry.1 entry.2)).lookup key = (entries.lookup key).map (f key) := by
  induction entries with
  | nil => rfl
  | cons entry entries ih =>
    rw [List.map_cons, List.lookup_cons, List.lookup_cons, ih]
    cases hkey : key == entry.1 with
    | true =>
      rw [eq_of_beq hkey]
      rfl
    | false => rfl

lemma resolve_mem_schema : ("resolve", resolveKeys) ∈ schema := .head _

lemma logging_mem_schema : ("logging", loggingKeys) ∈ schema := .tail _ (.head _)

lemma schema_cases (hname : (name, keys) ∈ schema) :
    name = "resolve" ∧ keys = resolveKeys ∨ name = "logging" ∧ keys = loggingKeys := by
  simpa [schema, resolveKeys, loggingKeys] using hname

lemma lookup_pruned (hname : (name, keys) ∈ schema) :
    (pruned document).lookup name = (document.lookup name).map (keepIn keys) := by
  have hkeys : schema.lookup name = some keys := by
    rcases schema_cases hname with ⟨rfl, rfl⟩ | ⟨rfl, rfl⟩ <;> rfl
  have hsection : name ∈ schema.map Prod.fst := List.mem_map.2 ⟨_, hname, rfl⟩
  rw [pruned, lookup_map_snd fun name => keepIn ((schema.lookup name).getD []), hkeys, Option.getD_some,
    lookup_keep hsection]

lemma mem_keys_keep_iff : key ∈ (keep keys entries).map Prod.fst ↔ key ∈ entries.map Prod.fst ∧ key ∈ keys := by
  simp only [keep, List.mem_map, List.mem_filter, List.contains_iff_mem]
  constructor
  · rintro ⟨entry, ⟨hentry, hkey⟩, rfl⟩
    exact ⟨⟨entry, hentry, rfl⟩, hkey⟩
  · rintro ⟨⟨entry, hentry, rfl⟩, hkey⟩
    exact ⟨entry, ⟨hentry, hkey⟩, rfl⟩

/-! ### Sections -/

/-- The entries of a section that is a table, or none if it is not there. -/
def sectionEntries (document : Table) (name : String) : Table :=
  match document.lookup name with
  | some (.table entries) => entries
  | _ => []

/-- The keys of a table apart from certain ones. -/
def others (keys : List String) (entries : Table) : List String :=
  (entries.map Prod.fst).filter (!keys.contains ·)

lemma mem_others_iff : key ∈ others keys entries ↔ key ∈ entries.map Prod.fst ∧ key ∉ keys := by
  simp [others]

lemma others_keep (keys : List String) (entries : Table) : others keys (keep keys entries) = [] := by
  refine List.eq_nil_iff_forall_not_mem.2 fun key hkey => ?_
  obtain ⟨hkept, hother⟩ := mem_others_iff.1 hkey
  exact hother (mem_keys_keep_iff.1 hkept).2

lemma section?_eq (htables : SectionsAreTables document) (hname : (name, keys) ∈ schema) : section? document name keys =
    some (sectionEntries document name, others keys (sectionEntries document name)) := by
  rw [section?, get_eq, sectionEntries]
  cases hlookup : document.lookup name with
  | none => rfl
  | some v =>
    obtain ⟨entries, rfl⟩ := htables name (List.mem_map.2 ⟨_, hname, rfl⟩) v hlookup
    rfl

lemma sectionEntries_pruned (htables : SectionsAreTables document) (hname : (name, keys) ∈ schema) :
    sectionEntries (pruned document) name = keep keys (sectionEntries document name) := by
  rw [sectionEntries, sectionEntries, lookup_pruned hname]
  cases hlookup : document.lookup name with
  | none => rfl
  | some v =>
    obtain ⟨entries, rfl⟩ := htables name (List.mem_map.2 ⟨_, hname, rfl⟩) v hlookup
    rfl

lemma sectionsAreTables_pruned (htables : SectionsAreTables document) : SectionsAreTables (pruned document) := by
  intro name hname v hlookup
  obtain ⟨⟨_, keys⟩, hmem, rfl⟩ := List.mem_map.1 hname
  rw [lookup_pruned hmem, Option.map_eq_some_iff] at hlookup
  obtain ⟨u, hu, rfl⟩ := hlookup
  obtain ⟨entries, rfl⟩ := htables _ hname u hu
  exact ⟨_, rfl⟩

lemma get_keep {α : Type} (hkey : key ∈ keys) (entries : Table) (default : α) (read : Value → Option α) :
    get (keep keys entries) key default read = get entries key default read := by
  rw [get_eq, get_eq, lookup_keep hkey]

lemma resolve?_keep (entries : Table) : resolve? (keep resolveKeys entries) = resolve? entries := by
  rw [resolve?, get_keep (by decide), get_keep (by decide), get_keep (by decide), get_keep (by decide)]
  rfl

lemma logging?_keep (entries : Table) : logging? (keep loggingKeys entries) = logging? entries := by
  rw [logging?, get_keep (by decide), get_keep (by decide), get_keep (by decide)]
  rfl

/-! ### The paths that are reported -/

lemma undotted_iff : Undotted raw path ↔ normalizePath raw = path := by
  have hspan (cs : List Char) : ∃ dots, cs = List.replicate dots '.' ++ cs.dropWhile (· == '.') := by
    refine ⟨(cs.takeWhile (· == '.')).length, ?_⟩
    have hdots : cs.takeWhile (· == '.') = List.replicate (cs.takeWhile (· == '.')).length '.' :=
      List.eq_replicate_iff.2 ⟨rfl, fun c hc => by simpa using List.mem_takeWhile_imp hc⟩
    rw [← hdots, List.takeWhile_append_dropWhile]
  constructor
  · rintro ⟨dots, hraw, hhead⟩
    rw [normalizePath, hraw, ← String.toList_inj, String.toList_ofList,
      List.dropWhile_append_of_pos fun c hc => by simp [List.eq_of_mem_replicate hc]]
    cases hpath : path.toList with
    | nil => rfl
    | cons c cs =>
      rw [hpath] at hhead
      exact List.dropWhile_cons_of_neg (by simpa using hhead)
  · rintro rfl
    rw [Undotted, normalizePath, String.toList_ofList]
    obtain ⟨dots, hdots⟩ := hspan raw.toList
    refine ⟨dots, hdots, fun hhead => ?_⟩
    have hnot := List.head?_dropWhile_not (· == '.') raw.toList
    rw [hhead] at hnot
    simp at hnot

lemma mem_insertText_iff {t : String} {ts : List String} : path ∈ insertText t ts ↔ path = t ∨ path ∈ ts := by
  induction ts with
  | nil => simp [insertText]
  | cons u us ih =>
    rw [insertText]
    split_ifs with hlt heq
    · simp
    · simp [heq]
    · simp [ih, or_left_comm]

lemma pairwise_insertText {t : String} {ts : List String} (hts : ts.Pairwise (· < ·)) :
    (insertText t ts).Pairwise (· < ·) := by
  induction ts with
  | nil => exact List.pairwise_singleton _ _
  | cons u us ih =>
    obtain ⟨hu, hus⟩ := List.pairwise_cons.1 hts
    rw [insertText]
    split_ifs with hlt heq
    · refine List.pairwise_cons.2 ⟨fun v hv => ?_, hts⟩
      rcases List.mem_cons.1 hv with rfl | hv
      · exact hlt
      · exact String.lt_trans hlt (hu v hv)
    · exact hts
    · refine List.pairwise_cons.2 ⟨fun v hv => ?_, ih hus⟩
      rcases mem_insertText_iff.1 hv with rfl | hv
      · exact ((Std.lt_trichotomy v u).resolve_left hlt).resolve_left heq
      · exact hu v hv

/-- The paths of the keys that are not known, as they are reported. -/
def unknownPaths (document : Table) : List String :=
  ((others sections document ++ (others resolveKeys (sectionEntries document "resolve")).map (sectionPath "resolve") ++
    (others loggingKeys (sectionEntries document "logging")).map (sectionPath "logging")).map normalizePath).foldr
      insertText []

lemma pairwise_unknownPaths (document : Table) : (unknownPaths document).Pairwise (· < ·) := by
  rw [unknownPaths]
  induction List.map normalizePath _ with
  | nil => exact .nil
  | cons t ts ih => exact pairwise_insertText ih

lemma mem_keys_sectionEntries_iff :
    key ∈ (sectionEntries document name).map Prod.fst ↔
      ∃ entries, document.lookup name = some (.table entries) ∧ key ∈ entries.map Prod.fst := by
  rw [sectionEntries]
  split
  · rename_i entries hlookup
    simp [hlookup]
  · rename_i hnone
    exact iff_of_false (by simp) fun ⟨entries, hlookup, _⟩ => hnone entries hlookup

/-- The paths before the dots in front are removed and before they are put in order. -/
lemma unknownPath_iff :
    UnknownPath document raw ↔ raw ∈ others sections document ∨
      raw ∈ (others resolveKeys (sectionEntries document "resolve")).map (sectionPath "resolve") ∨
      raw ∈ (others loggingKeys (sectionEntries document "logging")).map (sectionPath "logging") := by
  constructor
  · rintro (⟨hkey, hsection⟩ | ⟨hname, hlookup, hkey, hother⟩)
    · exact .inl (mem_others_iff.2 ⟨hkey, hsection⟩)
    · have hmem := mem_others_iff.2 ⟨mem_keys_sectionEntries_iff.2 ⟨_, hlookup, hkey⟩, hother⟩
      rcases schema_cases hname with ⟨rfl, rfl⟩ | ⟨rfl, rfl⟩
      · exact .inr (.inl (List.mem_map.2 ⟨_, hmem, rfl⟩))
      · exact .inr (.inr (List.mem_map.2 ⟨_, hmem, rfl⟩))
  · have hwithin {name : String} {keys : List String} (hname : (name, keys) ∈ schema)
        (hraw : raw ∈ (others keys (sectionEntries document name)).map (sectionPath name)) :
        UnknownPath document raw := by
      obtain ⟨key, hkey, rfl⟩ := List.mem_map.1 hraw
      obtain ⟨hmem, hother⟩ := mem_others_iff.1 hkey
      obtain ⟨entries, hlookup, hentry⟩ := mem_keys_sectionEntries_iff.1 hmem
      exact .within hname hlookup hentry hother
    rintro (hraw | hraw | hraw)
    · obtain ⟨hkey, hsection⟩ := mem_others_iff.1 hraw
      exact .beside hkey hsection
    · exact hwithin resolve_mem_schema hraw
    · exact hwithin logging_mem_schema hraw

lemma mem_unknownPaths_iff :
    path ∈ unknownPaths document ↔ ∃ raw, UnknownPath document raw ∧ Undotted raw path := by
  have hinsert (ts : List String) : path ∈ ts.foldr insertText [] ↔ path ∈ ts := by
    induction ts with
    | nil => rfl
    | cons t ts ih => rw [List.foldr_cons, mem_insertText_iff, ih, List.mem_cons]
  rw [unknownPaths, hinsert, List.mem_map]
  simp only [unknownPath_iff, undotted_iff, List.mem_append, or_assoc]

/-! ### Documents without unknown keys -/

lemma settings?_eq (htables : SectionsAreTables document) :
    settings? document = (resolve? (sectionEntries document "resolve")).bind fun resolve =>
      (logging? (sectionEntries document "logging")).map fun logging =>
        ({ resolve, logging }, unknownPaths document) := by
  rw [settings?, section?_eq htables resolve_mem_schema, section?_eq htables logging_mem_schema]
  simp only [Option.bind_eq_bind, Option.bind_some]
  cases resolve? (sectionEntries document "resolve") with
  | none => rfl
  | some resolve => cases logging? (sectionEntries document "logging") <;> rfl

lemma others_pruned (document : Table) : others sections (pruned document) = [] := by
  have hkeys : (pruned document).map Prod.fst = (keep sections document).map Prod.fst := by
    rw [pruned, List.map_map]
    rfl
  rw [others, hkeys]
  exact others_keep sections document

lemma unknownPaths_pruned (htables : SectionsAreTables document) : unknownPaths (pruned document) = [] := by
  rw [unknownPaths, others_pruned, sectionEntries_pruned htables resolve_mem_schema, others_keep,
    sectionEntries_pruned htables logging_mem_schema, others_keep]
  rfl

/-- Without the keys that are not known, a document has the same settings. -/
lemma settings?_pruned (htables : SectionsAreTables document) :
    settings? (pruned document) = (settings? document).map fun (s, _) => (s, []) := by
  rw [settings?_eq htables, settings?_eq (sectionsAreTables_pruned htables), unknownPaths_pruned htables,
    sectionEntries_pruned htables resolve_mem_schema, resolve?_keep,
    sectionEntries_pruned htables logging_mem_schema, logging?_keep]
  cases resolve? (sectionEntries document "resolve") with
  | none => rfl
  | some resolve => cases logging? (sectionEntries document "logging") <;> rfl

end SettingsDocument

/-! ### Loading -/

namespace Settings

open SettingsDocument

lemma load_eq_ok_iff {text : String} {loaded : Settings × Diagnostics} :
    load text = .ok loaded ↔ (Toml.parse? text).bind ofTable? = some loaded := by
  rw [load]
  cases (Toml.parse? text).bind ofTable? <;> simp

lemma ofTable?_eq_some_iff {document : Toml.Table} {s : Settings} {d : Diagnostics} :
    ofTable? document = some (s, d) ↔
      ∃ unknownKeys, settings? document = some (s, unknownKeys) ∧ ⟨unknownKeys, s.warnings, s.errors⟩ = d := by
  rw [ofTable?, Option.map_eq_some_iff]
  constructor
  · rintro ⟨⟨s', unknownKeys⟩, hsettings, hpair⟩
    obtain ⟨rfl, hd⟩ := Prod.mk.inj hpair
    exact ⟨unknownKeys, hsettings, hd⟩
  · rintro ⟨unknownKeys, hsettings, rfl⟩
    exact ⟨_, hsettings, rfl⟩

/-- **Keys that are not known are reported and otherwise ignored.**  Of a document whose sections are tables, the
paths that are reported are those of the keys that are not known, without the dots in front of them, in ascending order
of their bytes and each once.  The document without these keys has the same settings, with nothing to report about keys
and the same to say about the values. -/
theorem unknown_keys_change_nothing {text : String} {document : Toml.Table} {s : Settings} {d : Diagnostics}
    (hparse : Toml.parse? text = some document) (hload : load text = .ok (s, d))
    (htables : SectionsAreTables document) :
    (d.unknownKeys.Pairwise fun p q => utf8Bytes p < utf8Bytes q) ∧
    (∀ path, path ∈ d.unknownKeys ↔ ∃ raw, UnknownPath document raw ∧ Undotted raw path) ∧
    ofTable? (pruned document) = some (s, { d with unknownKeys := [] }) ∧
    ∀ other, Toml.parse? other = some (pruned document) → load other = .ok (s, { d with unknownKeys := [] }) := by
  rw [load_eq_ok_iff, hparse, Option.bind_some, ofTable?_eq_some_iff] at hload
  obtain ⟨unknownKeys, hsettings, rfl⟩ := hload
  have hunknown : unknownKeys = unknownPaths document := by
    rw [settings?_eq htables, Option.bind_eq_some_iff] at hsettings
    obtain ⟨resolve, -, hlogging⟩ := hsettings
    obtain ⟨logging, -, hpair⟩ := Option.map_eq_some_iff.1 hlogging
    exact (Prod.mk.inj hpair).2.symm
  have hpruned : ofTable? (pruned document) = some (s, ⟨[], s.warnings, s.errors⟩) := by
    rw [ofTable?_eq_some_iff]
    refine ⟨[], ?_, rfl⟩
    rw [settings?_pruned htables, hsettings]
    rfl
  dsimp only
  rw [hunknown]
  refine ⟨(pairwise_unknownPaths document).imp lt_iff_utf8Bytes_lt.1, fun path => mem_unknownPaths_iff, hpruned,
    fun other hother => ?_⟩
  rw [load_eq_ok_iff, hother, Option.bind_some, hpruned]

/-- Keys beside the sections, of which two have the same path and one has none, and a key within a section, all with
something below them or beside a key that is known. -/
def noted : String := "x=1\n\".x\"=2\n\"\"={json=0}\n[logging]\ny.z=3\nlevel=\"off\"\n"

theorem unknown_keys_noted :
    ∃ document, Toml.parse? noted = some document ∧ SectionsAreTables document ∧
      load noted = .ok ({ logging := { level := "off" } }, ⟨["", "logging.y", "x"], [], []⟩) ∧
      ofTable? (pruned document) = some ({ logging := { level := "off" } }, ⟨[], [], []⟩) := by
  have hparse : ((Toml.parse? noted).any fun document => decide (SectionsAreTables document)) = true := by
    decide +kernel
  obtain ⟨document, hdocument, htables⟩ := (Option.any_eq_true _ _).1 hparse
  have hload : load noted = .ok ({ logging := { level := "off" } }, ⟨["", "logging.y", "x"], [], []⟩) :=
    load_eq_ok_iff.2 (by decide +kernel)
  obtain ⟨-, -, hpruned, -⟩ := unknown_keys_change_nothing hdocument hload (of_decide_eq_true htables)
  exact ⟨document, hdocument, of_decide_eq_true htables, hload, hpruned⟩

end Settings

end CallTargets
