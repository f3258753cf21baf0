import CallTargets.Proofs.Text.Characters
import CallTargets.Settings.LogFilter

/-!
# The grammar of log filters

The texts of log filters, said without reading them.  `FilterText text ds` derives a text together with the directives that
stand in it, piece by piece between commas; `DirectiveText` does so for one piece, and `LevelText` for a level.

A directive with an equals sign has no white space in front.  Reading does not ask for that: it counts where the equals
sign stands after the white space, and then counts from the beginning.  With white space in front, what it takes for the
level still has the equals sign in it, and is none.

* `levelText_iff`, `directiveText_iff`, `filterText_iff`: what is derived is what is read.
* `filterText_join_iff`: with a comma between them, two texts are derived exactly if each of them is.
-/

namespace CallTargets

namespace LogFilter

variable {p blanks name text cs : List Char} {c : Char} {l : LogLevel} {d : LogDirective}
  {ds : List LogDirective}

/-! ### Derivations -/

/-- The names of the levels. -/
def levelNames : List (String × LogLevel) :=
  [("off", .off), ("error", .error), ("warn", .warn), ("info", .info), ("debug", .debug), ("trace", .trace)]

/-- The digits that stand for the levels. -/
def levelDigits : List (Char × LogLevel) :=
  [('0', .off), ('1', .error), ('2', .warn), ('3', .info), ('4', .debug), ('5', .trace)]

/-- A level: its name in capital or small letters, or its digit with zeros in front, and perhaps a plus sign. -/
inductive LevelText : List Char → LogLevel → Prop
  | name {text : List Char} {name : String} {l : LogLevel} : (name, l) ∈ levelNames →
      text.map Char.toLower = name.toList → LevelText text l
  | number {sign : List Char} {c : Char} {l : LogLevel} (zeros : Nat) : sign = [] ∨ sign = ['+'] →
      (c, l) ∈ levelDigits → LevelText (sign ++ (List.replicate zeros '0' ++ [c])) l

/-- The characters that may begin a directive. -/
def Begins (c : Char) : Prop :=
  isBlankChar c = false ∧ (c = '-' ∨ c = ':' ∨ c = '_' ∨ isAlphanumeric c = true)

/-- A directive: a level by itself, which is for all targets; a target by itself, of which everything is logged; or a
target with an equals sign and a level, where no level stands for the one that logs everything. -/
inductive DirectiveText : List Char → LogDirective → Prop
  | level {c : Char} {cs : List Char} {l : LogLevel} : Begins c → LevelText (c :: cs) l →
      DirectiveText (c :: cs) ⟨none, l⟩
  | target {blanks : List Char} {c : Char} {cs : List Char} : (∀ b ∈ blanks, isBlankChar b = true) → Begins c →
      '=' ∉ c :: cs → (∀ l, ¬ LevelText (blanks ++ c :: cs) l) →
      DirectiveText (blanks ++ c :: cs) ⟨some (String.ofList (blanks ++ c :: cs)), .trace⟩
  | everything {c : Char} {cs : List Char} : Begins c → '=' ∉ c :: cs →
      DirectiveText (c :: cs ++ ['=']) ⟨some (String.ofList (c :: cs)), .trace⟩
  | upTo {c : Char} {cs text : List Char} {l : LogLevel} : Begins c → '=' ∉ c :: cs → LevelText text l →
      DirectiveText (c :: cs ++ '=' :: text) ⟨some (String.ofList (c :: cs)), l⟩

/-- A filter: directives with commas between them, where empty pieces do not count. -/
def FilterText (text : String) (ds : List LogDirective) : Prop :=
  List.Forall₂ DirectiveText ((text.toList.splitOn ',').filter (· ≠ [])) ds

/-! ### Levels -/

lemma mem_levelNames_iff {name : String} : (name, l) ∈ levelNames ↔ l.name = name := by
  cases l <;> simp [levelNames, LogLevel.name, eq_comm]

lemma mem_levelDigits_iff :
    (c, l) ∈ levelDigits ↔ isDigitOf 10 c = true ∧ LogLevel.all[(digitValue? c).getD 0]? = some l := by
  constructor
  · intro hmem
    have hdigits : ∀ digit ∈ levelDigits,
        isDigitOf 10 digit.1 = true ∧ LogLevel.all[(digitValue? digit.1).getD 0]? = some digit.2 := by decide
    exact hdigits _ hmem
  · rintro ⟨hdigit, hlevel⟩
    have hlevels : ∀ v : Fin 6, (v.1.digitChar, LogLevel.all[v]) ∈ levelDigits := by decide
    obtain ⟨v, -, hvalue, rfl⟩ := exists_digitChar hdigit
    rw [hvalue, Option.getD_some] at hlevel
    obtain ⟨hv, rfl⟩ := List.getElem?_eq_some_iff.1 hlevel
    exact hlevels ⟨v, hv⟩

/-- The digits of a level: zeros, and the digit of the level. -/
lemma levelOfDigits_iff :
    cs.isEmpty = false ∧ cs.all (isDigitOf 10) = true ∧ LogLevel.all[ofDigits 10 cs]? = some l ↔
      ∃ zeros c, (c, l) ∈ levelDigits ∧ cs = List.replicate zeros '0' ++ [c] := by
  constructor
  · rintro ⟨hne, hall, hlevel⟩
    rcases List.eq_nil_or_concat' cs with rfl | ⟨front, c, rfl⟩
    · exact absurd hne (by simp)
    · have hdigits := List.all_eq_true.1 hall
      have hfront : ∀ c ∈ front, isDigitOf 10 c = true := fun c hc => hdigits c (by simp [hc])
      obtain ⟨hlt, -⟩ := List.getElem?_eq_some_iff.1 hlevel
      have hsix : ofDigits 10 (front ++ [c]) < 6 := hlt
      rw [ofDigits_append_singleton] at hsix hlevel
      have hzero : ofDigits 10 front = 0 := by omega
      rw [hzero, Nat.zero_mul, Nat.zero_add] at hlevel
      refine ⟨front.length, c, mem_levelDigits_iff.2 ⟨hdigits c (by simp), hlevel⟩, ?_⟩
      rw [← List.eq_replicate_iff.2 ⟨rfl, (ofDigits_eq_zero_iff hfront).1 hzero⟩]
  · rintro ⟨zeros, c, hc, rfl⟩
    obtain ⟨hdigit, hlevel⟩ := mem_levelDigits_iff.1 hc
    have hfront : ∀ c ∈ List.replicate zeros '0', c = '0' := fun c hc => List.eq_of_mem_replicate hc
    have hdigits : ∀ c ∈ List.replicate zeros '0', isDigitOf 10 c = true := fun c hc => hfront c hc ▸ by decide
    refine ⟨by simp, ?_, ?_⟩
    · rw [List.all_append, List.all_eq_true.2 hdigits]
      simpa using hdigit
    · rw [ofDigits_append_singleton, (ofDigits_eq_zero_iff hdigits).2 hfront, Nat.zero_mul, Nat.zero_add]
      exact hlevel

lemma ofNumber?_eq_some_iff :
    LogLevel.ofNumber? (String.ofList text) = some l ↔
      ∃ sign zeros c, (sign = [] ∨ sign = ['+']) ∧ (c, l) ∈ levelDigits ∧
        text = sign ++ (List.replicate zeros '0' ++ [c]) := by
  have hread (cs : List Char) :
      (if cs.isEmpty || !cs.all (isDigitOf 10) then none else LogLevel.all[ofDigits 10 cs]?) = some l ↔
        ∃ zeros c, (c, l) ∈ levelDigits ∧ cs = List.replicate zeros '0' ++ [c] := by
    rw [← levelOfDigits_iff]
    cases cs.isEmpty <;> cases cs.all (isDigitOf 10) <;> simp
  rw [LogLevel.ofNumber?, String.toList_ofList, hread]
  split
  · rename_i rest
    constructor
    · rintro ⟨zeros, c, hc, rfl⟩
      exact ⟨['+'], zeros, c, .inr rfl, hc, rfl⟩
    · rintro ⟨sign, zeros, c, rfl | rfl, hc, htext⟩
      -- a text of digits does not begin with the plus sign
      · have hall := (levelOfDigits_iff.2 ⟨zeros, c, hc, htext⟩).2.1
        exact absurd (List.all_eq_true.1 hall '+' (by simp)) (by decide)
      · exact ⟨zeros, c, hc, by simpa using htext⟩
  · rename_i hplus
    constructor
    · rintro ⟨zeros, c, hc, rfl⟩
      exact ⟨[], zeros, c, .inl rfl, hc, rfl⟩
    · rintro ⟨sign, zeros, c, rfl | rfl, hc, htext⟩
      · exact ⟨zeros, c, hc, htext⟩
      · exact absurd htext (hplus _)

lemma ofName?_eq_some_iff :
    LogLevel.ofName? (String.ofList text) = some l ↔
      ∃ name, (name, l) ∈ levelNames ∧ text.map Char.toLower = name.toList := by
  have hlower : (String.ofList text).toLower.toList = text.map Char.toLower := by
    change (String.map Char.toLower (String.ofList text)).toList = _
    rw [String.toList_map, String.toList_ofList]
  rw [LogLevel.ofName?, ← hlower]
  constructor
  · intro hfind
    have hname := List.find?_some hfind
    exact ⟨l.name, mem_levelNames_iff.2 rfl, by rw [eq_of_beq hname]⟩
  · rintro ⟨name, hname, htext⟩
    obtain rfl := mem_levelNames_iff.1 hname
    rw [String.toList_inj.1 htext]
    cases l <;> decide

/-- What ends with a digit is no name. -/
lemma ofNumber?_eq_none {name : String} (hname : (name, l) ∈ levelNames)
    (htext : text.map Char.toLower = name.toList) : LogLevel.ofNumber? (String.ofList text) = none := by
  have hlast : ∀ n ∈ levelNames, ∀ digit ∈ levelDigits, n.1.toList.getLast? ≠ some digit.1.toLower := by decide
  refine Option.eq_none_iff_forall_ne_some.2 fun other hother => ?_
  obtain ⟨sign, zeros, c, -, hc, rfl⟩ := ofNumber?_eq_some_iff.1 hother
  refine hlast _ hname _ hc ?_
  rw [← htext]
  simp

lemma levelText_iff : LevelText text l ↔ LogLevel.parse? (String.ofList text) = some l := by
  have hparse : LogLevel.parse? (String.ofList text) =
      (LogLevel.ofNumber? (String.ofList text)).or (LogLevel.ofName? (String.ofList text)) := by
    rw [LogLevel.parse?]
    cases LogLevel.ofNumber? (String.ofList text) <;> rfl
  rw [hparse, Option.or_eq_some_iff]
  constructor
  · rintro (@⟨_, name, _, hname, htext⟩ | @⟨sign, c, _, zeros, hsign, hc⟩)
    · exact .inr ⟨ofNumber?_eq_none hname htext, ofName?_eq_some_iff.2 ⟨name, hname, htext⟩⟩
    · exact .inl (ofNumber?_eq_some_iff.2 ⟨sign, zeros, c, hsign, hc, rfl⟩)
  · rintro (hnumber | ⟨-, hname⟩)
    · obtain ⟨sign, zeros, c, hsign, hc, rfl⟩ := ofNumber?_eq_some_iff.1 hnumber
      exact .number zeros hsign hc
    · obtain ⟨name, hname, htext⟩ := ofName?_eq_some_iff.1 hname
      exact .name hname htext

/-- The characters of levels, in small letters. -/
def levelAlphabet : List Char := '+' :: levelDigits.map (·.1) ++ levelNames.flatMap (·.1.toList)

lemma LevelText.toLower_mem (htext : LevelText text l) (hc : c ∈ text) : c.toLower ∈ levelAlphabet := by
  cases htext with
  | name hname hlower =>
    have hmem : c.toLower ∈ text.map Char.toLower := List.mem_map.2 ⟨c, hc, rfl⟩
    rw [hlower] at hmem
    exact List.mem_append.2 (.inr (List.mem_flatMap.2 ⟨_, hname, hmem⟩))
  | number zeros hsign hdigit =>
    have hdigits : ∀ digit ∈ levelDigits, digit.1.toLower ∈ levelAlphabet := by decide
    rcases List.mem_append.1 hc with hc | hc
    · obtain rfl : c = '+' := by
        rcases hsign with rfl | rfl
        · exact absurd hc (by simp)
        · exact List.mem_singleton.1 hc
      decide
    rcases List.mem_append.1 hc with hc | hc
    · rw [List.eq_of_mem_replicate hc]
      decide
    · rw [List.mem_singleton.1 hc]
      exact hdigits _ hdigit

lemma LevelText.equals_not_mem (htext : LevelText text l) : '=' ∉ text := fun hmem =>
  absurd (htext.toLower_mem hmem) (by decide)

lemma LevelText.not_blank (htext : LevelText text l) (hc : c ∈ text) : isBlankChar c = false := by
  have halphabet : (levelAlphabet.all fun c => !isBlankChar c) = true := by decide
  have hletter := List.all_eq_true.1 halphabet _ (htext.toLower_mem hc)
  by_contra hblank
  rw [Bool.not_eq_false] at hblank
  rw [toLower_eq_of_blank hblank, hblank] at hletter
  cases hletter

lemma LevelText.ne_nil (htext : LevelText text l) : text ≠ [] := by
  cases htext with
  | name hname hlower =>
    have hnames : ∀ n ∈ levelNames, n.1.toList ≠ [] := by decide
    rintro rfl
    exact hnames _ hname hlower.symm
  | number => simp

lemma levelAfter?_eq_some_iff : levelAfter? text = some l ↔ text = [] ∧ l = .trace ∨ LevelText text l := by
  cases text with
  | nil =>
    have hnone : ¬ LevelText [] l := fun htext => htext.ne_nil rfl
    simp [levelAfter?, hnone, eq_comm]
  | cons c cs => simp [levelAfter?, levelText_iff]

/-! ### Directives -/

lemma begins_iff : Begins c ↔ isBlankChar c = false ∧ startsDirective c = true := by
  simp [Begins, startsDirective, or_assoc]

lemma Begins.ne_equals (hc : Begins c) : c ≠ '=' := by
  rintro rfl
  exact absurd (begins_iff.1 hc).2 (by decide +kernel)

lemma directive?_of_blank (hp : ∀ b ∈ p, isBlankChar b = true) : directive? p = none := by
  rw [directive?, trimChars_of_blank hp]

lemma directive?_of_not_begins (hblanks : ∀ b ∈ blanks, isBlankChar b = true) (hblank : isBlankChar c = false)
    (hc : ¬ Begins c) (cs : List Char) : directive? (blanks ++ c :: cs) = none := by
  have hstart : startsDirective c = false := by
    simpa [begins_iff, hblank] using hc
  rw [directive?, trimChars_append_cons hblanks hblank]
  simp [hstart]

lemma directive?_without_equals (hblanks : ∀ b ∈ blanks, isBlankChar b = true) (hc : Begins c)
    (hequals : '=' ∉ c :: cs) :
    directive? (blanks ++ c :: cs) = some (untargeted (String.ofList (blanks ++ c :: cs))) := by
  obtain ⟨hblank, hstart⟩ := begins_iff.1 hc
  have hfront : '=' ∉ c :: cs.rdropWhile isBlankChar := fun hmem =>
    hequals (List.cons_subset_cons c (List.rdropWhile_prefix isBlankChar cs).subset hmem)
  simp only [directive?, trimChars_append_cons hblanks hblank, hstart, Bool.not_true, Bool.false_eq_true,
    if_false]
  rw [if_neg (by simpa using hfront)]

lemma directive?_with_equals (hblanks : ∀ b ∈ blanks, isBlankChar b = true) (hc : Begins c)
    (hequals : '=' ∉ c :: cs) (text : List Char) :
    directive? (blanks ++ (c :: cs ++ '=' :: text)) =
      targeted? (c :: cs).length (blanks ++ (c :: cs ++ '=' :: text)) := by
  obtain ⟨hblank, hstart⟩ := begins_iff.1 hc
  have hname : (c :: (cs ++ '=' :: text.rdropWhile isBlankChar)).takeWhile (· != '=') = c :: cs := by
    rw [← List.cons_append, List.takeWhile_append_of_pos fun a ha => by
      simpa using fun heq : a = '=' => hequals (heq ▸ ha)]
    simp
  simp only [directive?, List.cons_append, trimChars_append_cons hblanks hblank,
    rdropWhile_append_cons (q := isBlankChar) (a := '=') (by decide) cs text, hname, hstart, Bool.not_true,
    Bool.false_eq_true, if_false]
  rw [if_pos (by simp)]

/-- Without white space in front, the level stands behind the equals sign. -/
lemma targeted?_eq_some_iff :
    targeted? name.length (name ++ '=' :: text) = some d ↔
      ∃ l, (text = [] ∧ l = .trace ∨ LevelText text l) ∧ d = ⟨some (String.ofList name), l⟩ := by
  have hrest : (name ++ '=' :: text).drop (name.length + 1) = text := by simp
  rw [targeted?, hrest, List.take_left, Option.map_eq_some_iff]
  exact exists_congr fun l => and_congr levelAfter?_eq_some_iff eq_comm

/-- With white space in front, the equals sign stands in what is taken for the level. -/
lemma targeted?_of_blanks (hblanks : blanks ≠ []) (name text : List Char) :
    targeted? name.length (blanks ++ (name ++ '=' :: text)) = none := by
  have hlength : name.length + 1 ≤ (blanks ++ name).length := by
    have hpos := List.length_pos_iff.2 hblanks
    rw [List.length_append]
    omega
  have hrest : '=' ∈ (blanks ++ (name ++ '=' :: text)).drop (name.length + 1) := by
    rw [← List.append_assoc, List.drop_append_of_le_length hlength]
    simp
  refine Option.map_eq_none_iff.2 (Option.eq_none_iff_forall_ne_some.2 fun l hl => ?_)
  rcases levelAfter?_eq_some_iff.1 hl with ⟨hnil, -⟩ | htext
  · exact absurd hrest (by simp [hnil])
  · exact htext.equals_not_mem hrest

lemma directiveText_iff : DirectiveText p d ↔ directive? p = some d := by
  constructor
  · intro hp
    cases hp with
    | level hc hl =>
      have hread := directive?_without_equals (List.forall_mem_nil _) hc hl.equals_not_mem
      rw [List.nil_append, untargeted, levelText_iff.1 hl] at hread
      exact hread
    | target hblanks hc hequals hlevel =>
      rw [directive?_without_equals hblanks hc hequals, untargeted,
        Option.eq_none_iff_forall_ne_some.2 fun l hl => hlevel l (levelText_iff.2 hl)]
    | everything hc hequals =>
      refine (directive?_with_equals (List.forall_mem_nil _) hc hequals []).trans ?_
      exact targeted?_eq_some_iff.2 ⟨_, .inl ⟨rfl, rfl⟩, rfl⟩
    | upTo hc hequals hl =>
      refine (directive?_with_equals (List.forall_mem_nil _) hc hequals _).trans ?_
      exact targeted?_eq_some_iff.2 ⟨_, .inr hl, rfl⟩
  · intro hread
    rcases blank_or_append_cons p with hp | ⟨blanks, c, cs, hblanks, hblank, rfl⟩
    · exact absurd hread (by simp [directive?_of_blank hp])
    by_cases hc : Begins c
    swap
    · exact absurd hread (by simp [directive?_of_not_begins hblanks hblank hc])
    by_cases hequals : '=' ∈ c :: cs
    · obtain ⟨name, text, hsplit, hname⟩ := List.eq_append_cons_of_mem hequals
      cases name with
      | nil => exact absurd (List.cons.inj hsplit).1 hc.ne_equals
      | cons c' name =>
        obtain ⟨rfl, -⟩ := List.cons.inj hsplit
        rw [hsplit] at hread ⊢
        rw [directive?_with_equals hblanks hc hname] at hread
        cases blanks with
        | nil =>
          obtain ⟨l, ⟨rfl, rfl⟩ | hl, rfl⟩ := targeted?_eq_some_iff.1 hread
          · exact .everything hc hname
          · exact .upTo hc hname hl
        | cons b blanks => exact absurd hread (by rw [targeted?_of_blanks (by simp)]; simp)
    · rw [directive?_without_equals hblanks hc hequals, untargeted] at hread
      split at hread
      · rename_i l hl
        obtain rfl := Option.some.inj hread
        have htext := levelText_iff.2 hl
        cases blanks with
        | nil => exact .level hc htext
        | cons b blanks =>
          exact absurd (htext.not_blank (c := b) (by simp)) (by simp [hblanks b (by simp)])
      · rename_i hnone
        obtain rfl := Option.some.inj hread
        refine .target hblanks hc hequals fun l hl => ?_
        rw [levelText_iff.1 hl] at hnone
        cases hnone

/-! ### Filters -/

lemma pieces_eq_splitOn (cs : List Char) : pieces cs = cs.splitOn ',' := by
  induction cs with
  | nil => rfl
  | cons c cs ih =>
    obtain ⟨piece, rest, hsplit⟩ := List.exists_cons_of_ne_nil (List.splitOn_ne_nil ',' cs)
    rw [pieces, ih, List.splitOn_cons_eq_if_modifyHead, hsplit]
    simp

lemma filterText_iff {text : String} :
    FilterText text ds ↔ ((pieces text.toList).filter (!·.isEmpty)).mapM directive? = some ds := by
  have hkept : (text.toList.splitOn ',').filter (· ≠ []) = (pieces text.toList).filter (!·.isEmpty) := by
    rw [pieces_eq_splitOn]
    refine List.filter_congr fun piece _ => ?_
    cases piece <;> rfl
  rw [FilterText, hkept, mapM_eq_some_iff]
  exact ⟨List.Forall₂.imp fun _ _ => directiveText_iff.1, List.Forall₂.imp fun _ _ => directiveText_iff.2⟩

/-- What is read is the filter of the directives that are derived. -/
lemma parse?_eq_some_iff {text : String} {f : LogFilter} :
    parse? text = some f ↔ ∃ ds, FilterText text ds ∧ ofDirectives ds = f := by
  rw [parse?, Option.map_eq_some_iff]
  simp only [filterText_iff]

lemma parse?_eq_none_iff {text : String} : parse? text = none ↔ ∀ ds, ¬ FilterText text ds := by
  rw [parse?, Option.map_eq_none_iff, Option.eq_none_iff_forall_ne_some]
  simp only [filterText_iff]

/-- A comma joins two filters. -/
lemma filterText_join_iff {front back : String} :
    FilterText (front ++ "," ++ back) ds ↔
      ∃ fs bs, FilterText front fs ∧ FilterText back bs ∧ ds = fs ++ bs := by
  have hsplit : (front ++ "," ++ back).toList.splitOn ',' =
      front.toList.splitOn ',' ++ back.toList.splitOn ',' := by
    have htext : (front ++ "," ++ back).toList = front.toList ++ ',' :: back.toList := by simp
    rw [htext, List.splitOn_eq_splitOnP, List.splitOnP_append_cons _ _ (by simp)]
    rfl
  rw [FilterText, hsplit, List.filter_append]
  constructor
  · intro hds
    have hfront := (List.forall₂_take_append _ _ _ hds.flip).flip
    have hback := (List.forall₂_drop_append _ _ _ hds.flip).flip
    exact ⟨_, _, hfront, hback, (List.take_append_drop _ _).symm⟩
  · rintro ⟨fs, bs, hfs, hbs, rfl⟩
    exact List.rel_append hfs hbs

end LogFilter

end CallTargets
