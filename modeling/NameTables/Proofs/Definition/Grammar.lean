import NameTables.Proofs.Definition.Line
import NameTables.Proofs.Definition.Pattern
import NameTables.Proofs.Text.Cutting
import NameTables.Text.Blank

/-!
# The form of a line

A line defines a macro if it is put together from the keyword, blanks, the stem, a name, blanks, a
value, and nothing more or a blank and anything.  It can be put together so in one way at most,
whatever the stem holds: a name and a value begin with no blank and end where a blank stands, so the
blanks of the stem, in front of or behind its other characters, are told from those around it.

## Main definitions

* `Definition.Spells` — a text is put together so.
* `Definition.pattern` — the same form as a pattern.

## Main statements

* `Definition.nameAndValueAt?_eq_some_iff`, `Definition.afterBlanks?_eq_some_iff` — the parts of a
  line that define a macro.
* `Definition.captures?_pattern` — what is read from a line is what the first match of the pattern
  holds.
* `Definition.ofLine?_grammar` — the lines that define a macro, and what they define.
-/

namespace NameTables

namespace Definition

/-- At least one blank and nothing else. -/
def IsBlanks (w : Text) : Prop := w ≠ [] ∧ ∀ c ∈ w, isBlank c

/-- The text is put together from the keyword, blanks, the stem and the name, blanks, the value,
and nothing more or a blank and anything. -/
def Spells (stem s : Text) (d : Definition) : Prop :=
  ∃ lead gap tail,
    s = keyword ++ (lead ++ (stem ++ (d.name ++ (gap ++ (d.value ++ tail)))))
      ∧ IsBlanks lead ∧ IsBlanks gap ∧ d.WellFormed ∧ ∀ c ∈ tail.head?, isBlank c

/-- A character that may open a value. -/
def opensValue (c : Char) : Bool := isValueChar c && c != '('

/-- A value, which is kept. -/
def valuePattern : Pattern := .group (.seq (.one opensValue) (.many isValueChar))

/-- A name and a value, which are kept, with blanks between them. -/
def nameAndValuePattern : Pattern :=
  .seq (.group (.run isNameChar)) (.seq (.run isBlank) valuePattern)

/-- The form of a line that defines a macro under a stem. -/
def pattern (stem : Text) : Pattern :=
  .seq (.text keyword) (.seq (.run isBlank) (.seq (.text stem) nameAndValuePattern))

/-! ### A name and a value -/

variable {stem s r lead : Text} {d d' : Definition}

theorem IsBlanks.isBlank_of_mem_head? {w : Text} (hw : IsBlanks w) (s : Text) :
    ∀ c ∈ (w ++ s).head?, isBlank c := by
  intro c hc
  rw [List.head?_append_of_ne_nil _ hw.1] at hc
  exact hw.2 c (List.mem_of_mem_head? hc)

/-- What begins with a name begins with no blank. -/
theorem WellFormed.not_isBlank_of_mem_head? (hd : d.WellFormed) (s : Text) :
    ∀ c ∈ (d.name ++ s).head?, isBlank c = false := by
  intro c hc
  rw [List.head?_append_of_ne_nil _ hd.name_ne_nil] at hc
  have hname := hd.name_chars c (List.mem_of_mem_head? hc)
  rw [Bool.eq_false_iff]
  intro hblank
  rw [isNameChar_of_isBlank hblank] at hname
  cases hname

/-- A value is read up to the blank behind it. -/
theorem WellFormed.valueAt?_append (hd : d.WellFormed) {tail : Text}
    (htail : ∀ c ∈ tail.head?, isBlank c) : valueAt? (d.value ++ tail) = some d.value := by
  have hchars : ∀ c ∈ d.value, isValueChar c := fun c hc => by
    simp [isValueChar, hd.value_chars c hc]
  have htake : (d.value ++ tail).takeWhile isValueChar = d.value := by
    rw [takeWhile_append_of_head? fun c hc => by simp [isValueChar, htail c hc],
      List.takeWhile_eq_self_iff.mpr hchars]
  unfold valueAt?
  rw [htake]
  split
  · next hnil => exact absurd hnil hd.value_ne_nil
  · next rest hparen => exact absurd (congrArg List.head? hparen) hd.value_head
  · rfl

/-- A name and a value, with blanks between them, and nothing more or a blank and anything. -/
theorem nameAndValueAt?_eq_some_iff :
    nameAndValueAt? s = some d
      ↔ ∃ gap tail, s = d.name ++ (gap ++ (d.value ++ tail)) ∧ IsBlanks gap ∧ d.WellFormed
          ∧ ∀ c ∈ tail.head?, isBlank c := by
  constructor
  · intro h
    have hd := wellFormed_of_nameAndValueAt? h
    have hname := name_eq_of_nameAndValueAt? h
    rw [nameAndValueAt?_eq] at h
    split_ifs at h
    obtain ⟨value, hvalue, rfl⟩ := Option.map_eq_some_iff.mp h
    have hs : s = s.takeWhile isNameChar ++ s.dropWhile isNameChar :=
      List.takeWhile_append_dropWhile.symm
    cases hrest : s.dropWhile isNameChar with
    | nil =>
      rw [hrest] at hvalue
      cases hvalue
    | cons c rest =>
      rw [hrest, valueAfterBlanks?] at hvalue
      split_ifs at hvalue with hc
      obtain ⟨htake, -, -⟩ := valueAt?_eq_some hvalue
      refine ⟨(c :: rest).takeWhile isBlank,
        ((c :: rest).dropWhile isBlank).dropWhile isValueChar, ?_, ⟨?_, ?_⟩, hd, ?_⟩
      · dsimp only
        rw [← htake, List.takeWhile_append_dropWhile, List.takeWhile_append_dropWhile, ← hrest,
          List.takeWhile_append_dropWhile]
      · rw [List.takeWhile_cons_of_pos hc]
        exact List.cons_ne_nil _ _
      · exact fun c hc => List.mem_takeWhile_imp hc
      · intro c hc
        simpa [isValueChar] using eq_false_of_mem_head?_dropWhile c hc
  · rintro ⟨gap, tail, rfl, hgap, hd, htail⟩
    have hnames : ∀ c ∈ (gap ++ (d.value ++ tail)).head?, isNameChar c = false :=
      fun c hc => isNameChar_of_isBlank (hgap.isBlank_of_mem_head? _ c hc)
    have htake : (d.name ++ (gap ++ (d.value ++ tail))).takeWhile isNameChar = d.name := by
      rw [takeWhile_append_of_head? hnames, List.takeWhile_eq_self_iff.mpr hd.name_chars]
    have hdrop : (d.name ++ (gap ++ (d.value ++ tail))).dropWhile isNameChar
        = gap ++ (d.value ++ tail) := by
      have hwhole := List.takeWhile_append_dropWhile (p := isNameChar)
        (l := d.name ++ (gap ++ (d.value ++ tail)))
      rw [htake] at hwhole
      exact List.append_cancel_left hwhole
    have hvalue : (gap ++ (d.value ++ tail)).dropWhile isBlank = d.value ++ tail := by
      rw [List.dropWhile_append_of_pos hgap.2]
      obtain ⟨c, rest, hc⟩ := List.exists_cons_of_ne_nil hd.value_ne_nil
      have hblank : isBlank c = false := hd.value_chars c (by rw [hc]; exact List.mem_cons_self)
      rw [hc, List.cons_append, List.dropWhile_cons_of_neg (by simp [hblank])]
    have hread : valueAfterBlanks? (gap ++ (d.value ++ tail)) = some d.value := by
      obtain ⟨c, rest, rfl⟩ := List.exists_cons_of_ne_nil hgap.1
      have hc : isBlank c := hgap.2 c List.mem_cons_self
      rw [List.cons_append] at hvalue ⊢
      rw [valueAfterBlanks?, if_pos hc, hvalue, hd.valueAt?_append htail]
    rw [nameAndValueAt?_eq, htake, if_neg hd.name_ne_nil, hdrop, hread, Option.map_some]

/-! ### The blanks in front of the stem -/

/-- What is read after some blanks is a name and a value after blanks and the stem. -/
theorem exists_lead_of_afterBlanks? (h : afterBlanks? stem s = some d) :
    ∃ lead r, IsBlanks lead ∧ s = lead ++ (stem ++ r) ∧ nameAndValueAt? r = some d := by
  induction s with
  | nil => cases h
  | cons c s ih =>
    rw [afterBlanks?_cons] at h
    split_ifs at h with hc
    rcases Option.or_eq_some_iff.mp h with h | ⟨-, h⟩
    · obtain ⟨lead, r, hlead, rfl, hr⟩ := ih h
      exact ⟨c :: lead, r, ⟨List.cons_ne_nil _ _, List.forall_mem_cons.mpr ⟨hc, hlead.2⟩⟩, rfl, hr⟩
    · obtain ⟨r, hs, hr⟩ := Option.bind_eq_some_iff.mp h
      rw [Text.dropLead?_eq_some_iff] at hs
      refine ⟨[c], r, ⟨List.cons_ne_nil _ _, by simpa using hc⟩, ?_, hr⟩
      rw [hs, List.singleton_append]

/-- Where a name and a value stand after blanks and the stem, something is read. -/
theorem exists_afterBlanks?_eq (hlead : IsBlanks lead) (hr : nameAndValueAt? r = some d) :
    ∃ d', afterBlanks? stem (lead ++ (stem ++ r)) = some d' := by
  obtain ⟨hne, hchars⟩ := hlead
  induction lead with
  | nil => exact absurd rfl hne
  | cons c lead ih =>
    obtain ⟨hc, hchars⟩ := List.forall_mem_cons.mp hchars
    rw [List.cons_append, afterBlanks?_cons, if_pos hc]
    by_cases hnil : lead = []
    · rw [hnil, List.nil_append, Text.dropLead?_append, Option.bind_some, hr]
      cases afterBlanks? stem (stem ++ r) with
      | none => exact ⟨d, rfl⟩
      | some d' => exact ⟨d', rfl⟩
    · obtain ⟨d', hd'⟩ := ih hnil hchars
      exact ⟨d', by rw [hd', Option.some_or]⟩

/-- The blanks in front of the stem are all blanks but those that the stem begins with, so there is
one place only where it can stand. -/
theorem lead_unique {lead' r' : Text} (hlead : IsBlanks lead) (hlead' : IsBlanks lead')
    (hr : nameAndValueAt? r = some d) (hr' : nameAndValueAt? r' = some d')
    (h : lead ++ (stem ++ r) = lead' ++ (stem ++ r')) : lead = lead' ∧ r = r' := by
  have hblanks : ∀ {lead r d}, IsBlanks lead → nameAndValueAt? r = some d →
      (lead ++ (stem ++ r)).takeWhile isBlank = lead ++ stem.takeWhile isBlank := by
    intro lead r d hlead hr
    obtain ⟨gap, tail, rfl, -, hd, -⟩ := nameAndValueAt?_eq_some_iff.mp hr
    rw [List.takeWhile_append_of_pos hlead.2,
      takeWhile_append_of_head? (hd.not_isBlank_of_mem_head? _)]
  have hsame : lead = lead' := by
    have hcount := hblanks hlead hr
    rw [h, hblanks hlead' hr'] at hcount
    exact (List.append_cancel_right hcount).symm
  subst hsame
  exact ⟨rfl, List.append_cancel_left (List.append_cancel_left h)⟩

/-- Blanks, the stem, a name and a value. -/
theorem afterBlanks?_eq_some_iff :
    afterBlanks? stem s = some d
      ↔ ∃ lead r, IsBlanks lead ∧ s = lead ++ (stem ++ r) ∧ nameAndValueAt? r = some d := by
  constructor
  · exact exists_lead_of_afterBlanks?
  · rintro ⟨lead, r, hlead, rfl, hr⟩
    obtain ⟨d', hd'⟩ : ∃ d', afterBlanks? stem (lead ++ (stem ++ r)) = some d' :=
      exists_afterBlanks?_eq hlead hr
    obtain ⟨lead', r', hlead', hs, hr'⟩ := exists_lead_of_afterBlanks? hd'
    obtain ⟨-, rfl⟩ := lead_unique hlead hlead' hr hr' hs
    rw [hd', ← hr', hr]

/-- A line defines what its trimmed text is put together from. -/
theorem ofLine?_eq_some_iff {line : Text} :
    ofLine? stem line = some d ↔ Spells stem (Text.trim line) d := by
  rw [ofLine?, Option.bind_eq_some_iff]
  constructor
  · rintro ⟨s, hs, h⟩
    obtain ⟨lead, r, hlead, rfl, hr⟩ := afterBlanks?_eq_some_iff.mp h
    obtain ⟨gap, tail, rfl, hgap, hd, htail⟩ := nameAndValueAt?_eq_some_iff.mp hr
    exact ⟨lead, gap, tail, Text.dropLead?_eq_some_iff.mp hs, hlead, hgap, hd, htail⟩
  · rintro ⟨lead, gap, tail, hs, hlead, hgap, hd, htail⟩
    refine ⟨_, Text.dropLead?_eq_some_iff.mpr hs, ?_⟩
    exact afterBlanks?_eq_some_iff.mpr ⟨lead, _, hlead, rfl,
      nameAndValueAt?_eq_some_iff.mpr ⟨gap, tail, rfl, hgap, hd, htail⟩⟩

/-! ### The first match of the pattern -/

/-- What the groups hold where a definition is read. -/
def parts (d : Definition) : List Text := [d.name, d.value]

/-- A value is as long as it can be. -/
theorem captures?_valuePattern (s : Text) :
    valuePattern.captures? s = (valueAt? s).map fun value => [value] := by
  cases s with
  | nil => rfl
  | cons c s =>
    by_cases hopens : opensValue c
    · obtain ⟨hvalue, hparen⟩ := Bool.and_eq_true_iff.mp hopens
      have hread : valueAt? (c :: s) = some (c :: s.takeWhile isValueChar) := by
        rw [valueAt?, List.takeWhile_cons_of_pos hvalue]
        split
        · next hnil => cases hnil
        · next hcons =>
          obtain ⟨rfl, -⟩ := List.cons.inj hcons
          cases hparen
        · rfl
      rw [hread, valuePattern, Pattern.captures?]
      simp [Pattern.ways, hopens, Pattern.head?_runs, Match.kept, Match.andThen]
    · have hread : valueAt? (c :: s) = none := by
        by_cases hvalue : isValueChar c
        · have hparen : c = '(' := by simpa [opensValue, hvalue] using hopens
          subst hparen
          rw [valueAt?, List.takeWhile_cons_of_pos hvalue]
          rfl
        · rw [valueAt?, List.takeWhile_cons_of_neg hvalue]
      rw [hread, valuePattern, Pattern.captures?]
      simp [Pattern.ways, hopens]

/-- Blanks and a value: no value begins with a blank. -/
theorem captures?_run_valuePattern (s : Text) :
    (Pattern.seq (.run isBlank) valuePattern).captures? s
      = (valueAfterBlanks? s).map fun value => [value] := by
  have hblank : ∀ c r, isBlank c → valuePattern.captures? (c :: r) = none := by
    intro c r hc
    have hvalue : ¬ isValueChar c := by simp [isValueChar, hc]
    rw [captures?_valuePattern, valueAt?, List.takeWhile_cons_of_neg hvalue]
    rfl
  rw [Pattern.captures?_run_seq hblank]
  cases s with
  | nil => rfl
  | cons c s =>
    by_cases hc : isBlank c
    · rw [List.takeWhile_cons_of_pos hc, if_neg (List.cons_ne_nil _ _), captures?_valuePattern,
        valueAfterBlanks?, if_pos hc]
    · rw [List.takeWhile_cons_of_neg hc, if_pos rfl, valueAfterBlanks?, if_neg hc, Option.map_none]

/-- A name and a value: no blank is a name character. -/
theorem captures?_nameAndValuePattern (s : Text) :
    nameAndValuePattern.captures? s = (nameAndValueAt? s).map parts := by
  have hname : ∀ c r, isNameChar c →
      (Pattern.seq (.run isBlank) valuePattern).captures? (c :: r) = none := by
    intro c r hc
    have hblank : ¬ isBlank c := fun hblank => by simp [isNameChar_of_isBlank hblank] at hc
    rw [captures?_run_valuePattern, valueAfterBlanks?, if_neg hblank, Option.map_none]
  rw [nameAndValuePattern, Pattern.captures?_group_run_seq hname, captures?_run_valuePattern,
    nameAndValueAt?_eq]
  split_ifs
  · rfl
  · rw [Option.map_map, Option.map_map]
    rfl

/-- The runs of blanks in front of the stem are tried in the order in which a pattern tries them. -/
theorem afterBlanks?_cons_eq (stem : Text) (c : Char) (s : Text) :
    afterBlanks? stem (c :: s)
      = if isBlank c then (Pattern.runs isBlank s).findSome? fun (_, r) => afterStem? stem r
        else none := by
  induction s generalizing c with
  | nil =>
    rw [afterBlanks?_cons, afterBlanks?_nil, Option.none_or, Pattern.runs_nil,
      List.findSome?_singleton]
    rfl
  | cons b s ih =>
    rw [afterBlanks?_cons, ih, Pattern.runs_cons, List.findSome?_append, List.findSome?_singleton]
    by_cases hb : isBlank b
    · rw [if_pos hb, if_pos hb, List.findSome?_map]
      rfl
    · rw [if_neg hb, if_neg hb, List.findSome?_nil]
      rfl

/-- Blanks, the stem, a name and a value. -/
theorem captures?_run_stem (stem s : Text) :
    (Pattern.seq (.run isBlank) (.seq (.text stem) nameAndValuePattern)).captures? s
      = (afterBlanks? stem s).map parts := by
  have hstem : ∀ r, (Pattern.seq (.text stem) nameAndValuePattern).captures? r
      = (afterStem? stem r).map parts := by
    intro r
    rw [Pattern.captures?_text_seq, afterStem?, Option.map_bind]
    exact Option.bind_congr fun r _ => captures?_nameAndValuePattern r
  rw [Pattern.captures?_seq]
  cases s with
  | nil => rfl
  | cons c s =>
    rw [Pattern.findSome?_ways_run_cons, afterBlanks?_cons_eq]
    simp only [hstem, List.nil_append, Option.map_id']
    split_ifs
    · rw [List.map_findSome?]
      rfl
    · rfl

/-- What is read from a text is what the groups of the first match of the pattern hold. -/
theorem captures?_pattern (stem s : Text) :
    (pattern stem).captures? s
      = ((Text.dropLead? keyword s).bind (afterBlanks? stem)).map parts := by
  rw [pattern, Pattern.captures?_text_seq, Option.map_bind]
  exact Option.bind_congr fun r _ => captures?_run_stem stem r

/-! ### Lines -/

/-- **The form of a line.**  What a line defines is what the groups of the first match of the
pattern hold, where it is matched at the beginning of the line without the blanks at its ends.  A
line defines a macro if it is put together from the keyword, blanks, the stem, the name, blanks, the
value, and nothing more or a blank and anything; and it can be put together so in one way only. -/
theorem ofLine?_grammar (stem line : Text) :
    (ofLine? stem line).map parts = (pattern stem).captures? (Text.trim line)
      ∧ (∀ d, ofLine? stem line = some d ↔ Spells stem (Text.trim line) d)
      ∧ ∀ d d', Spells stem (Text.trim line) d → Spells stem (Text.trim line) d' → d = d' := by
  refine ⟨(captures?_pattern stem _).symm, fun d => ofLine?_eq_some_iff, fun d d' h h' => ?_⟩
  have hd := ofLine?_eq_some_iff.mpr h
  rw [ofLine?_eq_some_iff.mpr h'] at hd
  exact (Option.some.inj hd).symm

/-- A stem with blanks at both ends and characters that are special in patterns, and a value with a
parenthesis inside. -/
theorem ofLine?_grammar_at_blank_stem :
    let stem := " K.* ".toList
    let line := "\t#define  K.* A 0x1(2) /* ( */".toList
    let d : Definition := ⟨"A".toList, "0x1(2)".toList⟩
    Spells stem (Text.trim line) d ∧ ∀ d', Spells stem (Text.trim line) d' → d' = d := by
  intro stem line d
  obtain ⟨-, hspells, hunique⟩ := ofLine?_grammar stem line
  have hd : Spells stem (Text.trim line) d := (hspells d).mp rfl
  exact ⟨hd, fun d' hd' => hunique d' d hd' hd⟩

end Definition

end NameTables
