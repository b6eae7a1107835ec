import Mathlib.Data.List.TakeWhile
import Mathlib.Tactic.SplitIfs
import NameTables.Definition

/-!
# The definition on a line

A name ends where the name characters end, and a value where the blanks begin.  So a line is cut
into its parts in one way, and what is read from it has the form of a name and of a value.

## Main definitions

* `Definition.afterStem?` — the name and the value after a stem.
* `Definition.WellFormed` — the form of a definition read from a line.

## Main statements

* `Definition.nameAndValueAt?_eq` — how a name and a value are read.
* `Definition.wellFormed_of_mem_ofSource` — the definitions of a header are well formed.
-/

namespace NameTables

namespace Definition

/-! ### Characters -/

theorem isNameChar_iff (c : Char) :
    isNameChar c ↔ (97 ≤ c.toNat ∧ c.toNat ≤ 122) ∨ (65 ≤ c.toNat ∧ c.toNat ≤ 90)
      ∨ (48 ≤ c.toNat ∧ c.toNat ≤ 57) ∨ c.toNat = 95 := by
  simp only [isNameChar, Bool.or_eq_true, Bool.and_eq_true, decide_eq_true_eq, beq_iff_eq,
    Char.le_def, UInt32.le_iff_toNat_le, ← Char.toNat_inj, Char.toNat_val, or_assoc]
  exact Iff.rfl

/-- A blank is no name character. -/
theorem isNameChar_of_isBlank {c : Char} (h : isBlank c = true) : isNameChar c = false := by
  rw [Bool.eq_false_iff]
  intro hname
  have hname := (isNameChar_iff c).mp hname
  simp only [isBlank, Bool.or_eq_true, Bool.and_eq_true, decide_eq_true_eq, beq_iff_eq] at h
  omega

/-! ### The parts of a line -/

/-- The blanks after a name and the value, at the beginning of a text. -/
def valueAfterBlanks? : Text → Option Text
  | [] => none
  | c :: s => if isBlank c then valueAt? ((c :: s).dropWhile isBlank) else none

/-- A name ends where the name characters end, and what follows must be a value. -/
theorem nameAndValueAt?_eq (s : Text) :
    nameAndValueAt? s =
      if s.takeWhile isNameChar = [] then none
      else (valueAfterBlanks? (s.dropWhile isNameChar)).map fun value =>
        ⟨s.takeWhile isNameChar, value⟩ := by
  unfold nameAndValueAt?
  simp only [List.isEmpty_iff]
  split_ifs with hname
  · rfl
  · cases hrest : s.dropWhile isNameChar with
    | nil => rfl
    | cons c rest =>
      simp only [valueAfterBlanks?]
      split_ifs <;> rfl

theorem name_eq_of_nameAndValueAt? {s : Text} {d : Definition} (h : nameAndValueAt? s = some d) :
    s.takeWhile isNameChar = d.name := by
  rw [nameAndValueAt?_eq] at h
  split_ifs at h
  obtain ⟨value, -, rfl⟩ := Option.map_eq_some_iff.mp h
  rfl

/-- A name and a value after a stem. -/
def afterStem? (stem s : Text) : Option Definition := (Text.dropLead? stem s).bind nameAndValueAt?

/-- What is read after some blanks is a name and a value after the stem. -/
theorem exists_of_afterBlanks? {stem s : Text} {d : Definition} (h : afterBlanks? stem s = some d) :
    ∃ r, afterStem? stem r = some d := by
  induction s with
  | nil => cases h
  | cons c s ih =>
    rw [afterBlanks?_cons] at h
    split_ifs at h with hc
    rcases Option.or_eq_some_iff.mp h with h | ⟨-, h⟩
    · exact ih h
    · exact ⟨s, h⟩

/-! ### The form of a definition -/

/-- The form of a definition read from a line. -/
structure WellFormed (d : Definition) : Prop where
  /-- A name is not empty. -/
  name_ne_nil : d.name ≠ []
  /-- A name consists of name characters. -/
  name_chars : ∀ c ∈ d.name, isNameChar c
  /-- A value is not empty. -/
  value_ne_nil : d.value ≠ []
  /-- A value holds no blanks. -/
  value_chars : ∀ c ∈ d.value, isBlank c = false
  /-- A value is not opened by a parenthesis. -/
  value_head : d.value.head? ≠ some '('

theorem valueAt?_eq_some {s value : Text} (h : valueAt? s = some value) :
    s.takeWhile isValueChar = value ∧ value ≠ [] ∧ value.head? ≠ some '(' := by
  unfold valueAt? at h
  split at h
  · cases h
  · cases h
  · next hnil hparen =>
    rw [Option.some.injEq] at h
    subst h
    refine ⟨rfl, hnil, fun hhead => ?_⟩
    obtain ⟨rest, hrest⟩ := List.head?_eq_some_iff.mp hhead
    exact hparen rest hrest

theorem wellFormed_of_nameAndValueAt? {s : Text} {d : Definition}
    (h : nameAndValueAt? s = some d) : d.WellFormed := by
  rw [nameAndValueAt?_eq] at h
  split_ifs at h with hname
  obtain ⟨value, hvalue, rfl⟩ := Option.map_eq_some_iff.mp h
  unfold valueAfterBlanks? at hvalue
  split at hvalue
  · cases hvalue
  · split_ifs at hvalue
    obtain ⟨htake, hne, hhead⟩ := valueAt?_eq_some hvalue
    refine ⟨hname, fun c hc => List.mem_takeWhile_imp hc, hne, fun c hc => ?_, hhead⟩
    rw [← htake] at hc
    simpa [isValueChar] using List.mem_takeWhile_imp hc

theorem wellFormed_of_ofLine? {stem line : Text} {d : Definition} (h : ofLine? stem line = some d) :
    d.WellFormed := by
  obtain ⟨r, -, hr⟩ := Option.bind_eq_some_iff.mp h
  obtain ⟨r', hr'⟩ := exists_of_afterBlanks? hr
  obtain ⟨r'', -, hr''⟩ := Option.bind_eq_some_iff.mp hr'
  exact wellFormed_of_nameAndValueAt? hr''

/-- The definitions of a header are well formed. -/
theorem wellFormed_of_mem_ofSource {stem : Text} {source : Bytes} {d : Definition}
    (h : d ∈ ofSource stem source) : d.WellFormed := by
  obtain ⟨line, -, hline⟩ := List.mem_filterMap.mp h
  exact wellFormed_of_ofLine? hline

end Definition

end NameTables
