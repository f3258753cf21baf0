import CallTargets.Proofs.Settings.FilterGrammar
import CallTargets.Settings.Document

/-!
# The log filter in force

The filter in force is put together from the level of the settings and the directives of the environment.  Each side may be
without a filter: the level if it is no list of directives, the environment if it is not set, blank, or no list of
directives either.  The two are read as one text with a comma between them, and only if that fails as one alone.
Nothing is lost this way, because the text with the comma is a filter exactly if both sides are.

* `holds_ofDirectives`: a filter holds the last directive for each target.
* `LogSettings.normalize_normalize`: the directives that a level stands for stand for themselves.
* `Settings.filter_in_force`: which filter is in force, and when the level is reported.
-/

namespace CallTargets

/-! ### The directives that a filter holds -/

namespace LogFilter

variable {f : LogFilter} {d e : LogDirective} {ds es : List LogDirective}

/-- `d` is the last one of some directives for its target. -/
def InForce (ds : List LogDirective) (d : LogDirective) : Prop :=
  ∃ front back, ds = front ++ d :: back ∧ ∀ later ∈ back, later.target? ≠ d.target?

/-- A filter holds the last one of some directives for each target, and nothing else. -/
structure Holds (f : LogFilter) (ds : List LogDirective) : Prop where
  mem_iff : ∀ d, d ∈ f ↔ InForce ds d
  once : f.Pairwise fun d e => d.target? ≠ e.target?

/-- One directive more takes the place of those for the same target. -/
lemma inForce_concat_iff : InForce (ds ++ [e]) d ↔ d = e ∨ InForce ds d ∧ d.target? ≠ e.target? := by
  constructor
  · rintro ⟨front, back, hsplit, hlater⟩
    rcases List.eq_nil_or_concat' back with rfl | ⟨back, last, rfl⟩
    · obtain ⟨-, hlast⟩ := List.append_inj' hsplit rfl
      exact .inl (List.singleton_inj.1 hlast).symm
    · rw [← List.cons_append, ← List.append_assoc] at hsplit
      obtain ⟨rfl, hlast⟩ := List.append_inj' hsplit rfl
      obtain rfl := List.singleton_inj.1 hlast
      refine .inr ⟨⟨front, back, rfl, fun later hmem => hlater later (by simp [hmem])⟩, ?_⟩
      exact (hlater e (by simp)).symm
  · rintro (rfl | ⟨⟨front, back, rfl, hlater⟩, hne⟩)
    · exact ⟨ds, [], rfl, by simp⟩
    · refine ⟨front, back ++ [e], by simp, fun later hmem => ?_⟩
      rcases List.mem_append.1 hmem with hmem | hmem
      · exact hlater later hmem
      · rw [List.mem_singleton.1 hmem]
        exact hne.symm

lemma holds_nil : Holds [] [] :=
  ⟨fun d => by simp [InForce], .nil⟩

lemma Holds.add (hf : f.Holds ds) (e : LogDirective) : (f.add e).Holds (ds ++ [e]) := by
  constructor
  · intro d
    rw [inForce_concat_iff, LogFilter.add, ← hf.mem_iff]
    simp [or_comm]
  · rw [LogFilter.add, List.pairwise_append]
    refine ⟨hf.once.filter _, List.pairwise_singleton _ _, fun d hd later hlater => ?_⟩
    rw [List.mem_singleton.1 hlater]
    simpa using (List.mem_filter.1 hd).2

lemma holds_ofDirectives (ds : List LogDirective) : (ofDirectives ds).Holds ds := by
  induction ds using List.reverseRecOn with
  | nil => exact holds_nil
  | append_singleton ds d ih =>
    rw [ofDirectives, List.foldl_concat]
    exact ih.add d

/-- The text is a list of directives. -/
def Valid (text : String) : Prop := ∃ ds, FilterText text ds

lemma FilterText.parse?_eq {text : String} (hds : FilterText text ds) : parse? text = some (ofDirectives ds) :=
  parse?_eq_some_iff.2 ⟨ds, hds, rfl⟩

lemma parse?_of_not_valid {text : String} (htext : ¬ Valid text) : parse? text = none :=
  parse?_eq_none_iff.2 fun ds hds => htext ⟨ds, hds⟩

/-- With a comma between them, two texts are a list of directives only if each of them is one. -/
lemma not_valid_join {front back : String} (htexts : ¬ Valid front ∨ ¬ Valid back) :
    ¬ Valid (front ++ "," ++ back) := by
  rintro ⟨ds, hds⟩
  obtain ⟨fs, bs, hfs, hbs, -⟩ := filterText_join_iff.1 hds
  exact htexts.elim (· ⟨fs, hfs⟩) (· ⟨bs, hbs⟩)

end LogFilter

/-! ### The directives that a level stands for -/

namespace LogSettings

open LogFilter (FilterText Valid)

variable {level : String} {environment? : Option String}

lemma normalize_trimText (level : String) : normalize (trimText level) = normalize level := by
  rw [normalize, normalize, trimText_trimText]

lemma normalize_of_blank (hlevel : (trimText level).isEmpty = true) : normalize level = "info" := by
  rw [normalize, hlevel]
  rfl

lemma normalize_cases (level : String) :
    normalize level ∈ ["trace", "debug", "info", "warn", "error"] ∨ normalize level = trimText level := by
  rw [normalize]
  split_ifs
  · exact .inl (by decide)
  · split
    case h_7 => exact .inr rfl
    all_goals exact .inl (by decide)

lemma normalize_normalize (level : String) : normalize (normalize level) = normalize level := by
  have hnames : ∀ name ∈ ["trace", "debug", "info", "warn", "error"], normalize name = name := by
    decide +kernel
  rcases normalize_cases level with hname | htrimmed
  · exact hnames _ hname
  · rw [htrimmed, normalize_trimText, htrimmed]

/-! ### The filter of a level and an environment -/

lemma ownFilter_of_filterText {cs : List LogDirective} (hcs : FilterText (normalize level) cs) :
    ownFilter level = LogFilter.ofDirectives cs := by
  rw [ownFilter, hcs.parse?_eq, Option.getD_some]

lemma ownFilter_of_not_valid (hlevel : ¬ Valid (normalize level)) : ownFilter level = [⟨none, .info⟩] := by
  rw [ownFilter, LogFilter.parse?_of_not_valid hlevel, Option.getD_none]

lemma filter_of_blank (henv : trimText (environment?.getD "") = "") :
    filter level environment? = ownFilter level := by
  cases environment? with
  | none => rfl
  | some text =>
    have hnone : ((some text).map trimText).filter (!·.isEmpty) = none := by
      rw [Option.map_some, show trimText text = "" from henv]
      rfl
    rw [filter, hnone]

lemma filter_of_directives (henv : trimText (environment?.getD "") ≠ "") :
    filter level environment? =
      ((LogFilter.parse? (normalize level ++ "," ++ trimText (environment?.getD ""))).or
        (LogFilter.parse? (trimText (environment?.getD "")))).getD (ownFilter level) := by
  cases environment? with
  | none => exact absurd (by decide) henv
  | some text =>
    have hsome : ((some text).map trimText).filter (!·.isEmpty) = some (trimText text) := by
      have hne : trimText text ≠ "" := henv
      simp [hne]
    rw [filter, hsome, Option.getD_some, Option.or_eq_orElse]

lemma filter_of_both {cs es : List LogDirective} (henv : trimText (environment?.getD "") ≠ "")
    (hcs : FilterText (normalize level) cs) (hes : FilterText (trimText (environment?.getD "")) es) :
    filter level environment? = LogFilter.ofDirectives (cs ++ es) := by
  have hjoin := LogFilter.filterText_join_iff.2 ⟨cs, es, hcs, hes, rfl⟩
  rw [filter_of_directives henv, hjoin.parse?_eq, Option.some_or, Option.getD_some]

lemma filter_of_environment {es : List LogDirective} (henv : trimText (environment?.getD "") ≠ "")
    (hlevel : ¬ Valid (normalize level)) (hes : FilterText (trimText (environment?.getD "")) es) :
    filter level environment? = LogFilter.ofDirectives es := by
  rw [filter_of_directives henv, LogFilter.parse?_of_not_valid (LogFilter.not_valid_join (.inl hlevel)),
    Option.none_or, hes.parse?_eq, Option.getD_some]

lemma filter_of_level (henv : trimText (environment?.getD "") = "" ∨ ¬ Valid (trimText (environment?.getD ""))) :
    filter level environment? = ownFilter level := by
  by_cases hblank : trimText (environment?.getD "") = ""
  · exact filter_of_blank hblank
  · have hinvalid := henv.resolve_left hblank
    rw [filter_of_directives hblank, LogFilter.parse?_of_not_valid (LogFilter.not_valid_join (.inr hinvalid)),
      Option.none_or, LogFilter.parse?_of_not_valid hinvalid, Option.getD_none]

end LogSettings

/-! ### What is reported -/

namespace Settings

open LogFilter (FilterText Valid)

lemma valid_info : Valid "info" := ⟨[⟨none, .info⟩], LogFilter.filterText_iff.2 (by decide +kernel)⟩

/-- A blank level needs no guard of its own, because it stands for a valid one. -/
lemma warnings_eq_nil_iff (s : Settings) : s.warnings = [] ↔ Valid (LogSettings.normalize s.logging.level) := by
  rw [warnings]
  by_cases hvalid : Valid (LogSettings.normalize s.logging.level)
  · obtain ⟨cs, hcs⟩ := hvalid
    simp [hcs.parse?_eq, show Valid (LogSettings.normalize s.logging.level) from ⟨cs, hcs⟩]
  · have hlevel : (trimText s.logging.level).isEmpty = false := by
      by_contra hblank
      rw [LogSettings.normalize_of_blank (by simpa using hblank)] at hvalid
      exact hvalid valid_info
    simp [hlevel, LogFilter.parse?_of_not_valid hvalid, hvalid]

lemma warnings_of_not_valid {s : Settings} (hlevel : ¬ Valid (LogSettings.normalize s.logging.level)) :
    s.warnings = [.invalidLevel s.logging.level (LogSettings.normalize s.logging.level)] := by
  have hne : s.warnings ≠ [] := fun hnil => hlevel ((warnings_eq_nil_iff s).1 hnil)
  rw [warnings] at hne ⊢
  split_ifs at hne ⊢
  · rfl
  · exact absurd rfl hne

/-- **The filter in force loses no valid side.**  Let `c` be the directives that the level stands for and `e` those of
the environment, which may not be set.  If both are filters, the one in force holds the directives of `c` and then those
of `e`, the last one for each target.  If only one is, it is in force alone; a blank `e` counts as none.  If none
is, the level is `info` for all targets.

The level is reported exactly if `c` is no filter.  That is when the filter without an environment is not one of `c`, but
the one that takes its place.  And `c` stands for itself. -/
theorem filter_in_force (s : Settings) (environment? : Option String) :
    let c := LogSettings.normalize s.logging.level
    let e := trimText (environment?.getD "")
    let f := LogSettings.filter s.logging.level environment?
    (∀ cs es, e ≠ "" → FilterText c cs → FilterText e es → f.Holds (cs ++ es)) ∧
    (∀ es, e ≠ "" → ¬ Valid c → FilterText e es → f.Holds es) ∧
    (e = "" ∨ ¬ Valid e → (∀ cs, FilterText c cs → f.Holds cs) ∧ (¬ Valid c → f = [⟨none, .info⟩])) ∧
    (s.warnings = [.invalidLevel s.logging.level c] ↔ ¬ Valid c) ∧ (s.warnings = [] ↔ Valid c) ∧
    (s.warnings ≠ [] ↔ LogSettings.filter s.logging.level none = [⟨none, .info⟩] ∧
      ¬ ∃ cs, FilterText c cs ∧ (LogSettings.filter s.logging.level none).Holds cs) ∧
    LogSettings.normalize c = c := by
  intro c e f
  have hown (cs : List LogDirective) (hcs : FilterText c cs) :
      (LogSettings.ownFilter s.logging.level).Holds cs := by
    rw [LogSettings.ownFilter_of_filterText hcs]
    exact LogFilter.holds_ofDirectives cs
  refine ⟨fun cs es he hcs hes => ?_, fun es he hc hes => ?_, fun he => ?_, ⟨fun hreport hc => ?_, warnings_of_not_valid⟩,
    warnings_eq_nil_iff s, ?_, LogSettings.normalize_normalize _⟩
  · have hf : f = LogFilter.ofDirectives (cs ++ es) := LogSettings.filter_of_both he hcs hes
    rw [hf]
    exact LogFilter.holds_ofDirectives _
  · have hf : f = LogFilter.ofDirectives es := LogSettings.filter_of_environment he hc hes
    rw [hf]
    exact LogFilter.holds_ofDirectives _
  · have hf : f = LogSettings.ownFilter s.logging.level := LogSettings.filter_of_level he
    rw [hf]
    exact ⟨hown, LogSettings.ownFilter_of_not_valid⟩
  · rw [(warnings_eq_nil_iff s).2 hc] at hreport
    cases hreport
  · have hplain : LogSettings.filter s.logging.level none = LogSettings.ownFilter s.logging.level := rfl
    rw [ne_eq, warnings_eq_nil_iff, hplain]
    constructor
    · intro hc
      exact ⟨LogSettings.ownFilter_of_not_valid hc, fun ⟨cs, hcs, _⟩ => hc ⟨cs, hcs⟩⟩
    · rintro ⟨-, hforeign⟩ ⟨cs, hcs⟩
      exact hforeign ⟨cs, hcs, hown cs hcs⟩

/-- Settings with the level `level`. -/
def atLevel (level : String) : Settings := { logging := { level } }

/-- The environment turns everything off that it does not name, and a level that is no filter is reported. -/
theorem filter_in_force_quiet :
    (LogSettings.filter " Warning" (some " app=3,OFF\t")).Holds
        [⟨none, .warn⟩, ⟨some "app", .info⟩, ⟨none, .off⟩] ∧
      (atLevel "app=loud").warnings = [.invalidLevel "app=loud" "app=loud"] := by
  have hlevel : FilterText (LogSettings.normalize " Warning") [⟨none, .warn⟩] :=
    LogFilter.filterText_iff.2 (by decide +kernel)
  have henv : FilterText (trimText " app=3,OFF\t") [⟨some "app", .info⟩, ⟨none, .off⟩] :=
    LogFilter.filterText_iff.2 (by decide +kernel)
  obtain ⟨hboth, -⟩ := filter_in_force (atLevel " Warning") (some " app=3,OFF\t")
  obtain ⟨-, -, -, hreport, -⟩ := filter_in_force (atLevel "app=loud") none
  have hnormal : LogSettings.normalize "app=loud" = "app=loud" := by decide +kernel
  have hinvalid : ¬ Valid "app=loud" := by
    have hparse : LogFilter.parse? "app=loud" = none := by decide +kernel
    rintro ⟨ds, hds⟩
    exact LogFilter.parse?_eq_none_iff.1 hparse ds hds
  simp only [atLevel, hnormal] at hreport
  exact ⟨hboth _ _ (by decide) hlevel henv, hreport.2 hinvalid⟩

end Settings

end CallTargets
