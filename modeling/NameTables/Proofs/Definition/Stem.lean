import NameTables.Proofs.Definition.Line

/-!
# Definitions under a stem

Looking for the macros under a stem is looking for all macros and taking those whose name goes on
after the stem.  This needs a stem of name characters only: the line is then cut into the same
parts whatever the stem.

## Main definitions

* `Text.dropStem?` — what follows a stem, which must be something.
* `Definition.under?` — a definition as known under a stem.

## Main statements

* `Definition.ofSource_stem` — the definitions of a header under a stem.
-/

namespace NameTables

namespace Text

/-- What follows the stem in a text that goes on after it. -/
def dropStem? (stem s : Text) : Option Text := (dropLead? stem s).filter fun rest => !rest.isEmpty

theorem dropStem?_eq_some_iff {stem s r : Text} :
    dropStem? stem s = some r ↔ s = stem ++ r ∧ r ≠ [] := by
  rw [dropStem?, Option.filter_eq_some_iff, dropLead?_eq_some_iff]
  cases r <;> simp

theorem dropStem?_append {stem r : Text} (hr : r ≠ []) : dropStem? stem (stem ++ r) = some r :=
  dropStem?_eq_some_iff.mpr ⟨rfl, hr⟩

theorem dropStem?_self (stem : Text) : dropStem? stem (stem ++ []) = none := by
  rw [Option.eq_none_iff_forall_ne_some]
  intro r hr
  obtain ⟨hr, hne⟩ := dropStem?_eq_some_iff.mp hr
  exact hne (List.append_cancel_left hr).symm

end Text

namespace Definition

/-- A definition as it is known under a stem, if its name goes on after the stem. -/
def under? (stem : Text) (d : Definition) : Option Definition :=
  (Text.dropStem? stem d.name).map fun name => { d with name := name }

theorem under?_eq_some_iff {stem : Text} {d d' : Definition} :
    under? stem d = some d' ↔ Text.dropStem? stem d.name = some d'.name ∧ d'.value = d.value := by
  rw [under?, Option.map_eq_some_iff]
  constructor
  · rintro ⟨name, hname, rfl⟩
    exact ⟨hname, rfl⟩
  · rintro ⟨hname, hvalue⟩
    exact ⟨d'.name, hname, by rw [← hvalue]⟩

/-! ### After the blanks -/

theorem afterStem?_eq_none_of_isBlank {stem : Text} (hstem : ∀ c ∈ stem, isNameChar c) {c : Char}
    (hc : isBlank c = true) (s : Text) : afterStem? stem (c :: s) = none := by
  have hname := isNameChar_of_isBlank hc
  cases stem with
  | nil =>
    rw [afterStem?, Text.dropLead?_nil, Option.bind_some, nameAndValueAt?_eq,
      List.takeWhile_cons_of_neg (by rw [hname]; simp), if_pos rfl]
  | cons a stem =>
    have hac : a ≠ c := by
      rintro rfl
      rw [hstem a List.mem_cons_self] at hname
      cases hname
    rw [afterStem?, Text.dropLead?_cons_cons, if_neg hac, Option.bind_none]

/-- A stem of name characters does not begin with a blank, so all the blanks stand in front of
it. -/
theorem afterBlanks?_eq {stem : Text} (hstem : ∀ c ∈ stem, isNameChar c) (c : Char) (s : Text) :
    afterBlanks? stem (c :: s) =
      if isBlank c then afterStem? stem (s.dropWhile isBlank) else none := by
  induction s generalizing c with
  | nil =>
    rw [afterBlanks?_cons, afterBlanks?_nil, Option.none_or]
    rfl
  | cons b s ih =>
    rw [afterBlanks?_cons, ih]
    cases hb : isBlank b with
    | true =>
      have hnone := afterStem?_eq_none_of_isBlank hstem hb s
      rw [afterStem?] at hnone
      rw [if_pos rfl, hnone, Option.or_none, List.dropWhile_cons_of_pos hb]
    | false =>
      rw [if_neg Bool.false_ne_true, Option.none_or, List.dropWhile_cons_of_neg (by rw [hb]; simp)]
      rfl

/-! ### After the stem -/

/-- A name that begins with the stem is read to where it ends without the stem. -/
theorem nameAndValueAt?_append {stem : Text} (hstem : ∀ c ∈ stem, isNameChar c) (r : Text) :
    nameAndValueAt? r = (nameAndValueAt? (stem ++ r)).bind (under? stem) := by
  rw [nameAndValueAt?_eq, nameAndValueAt?_eq, List.takeWhile_append_of_pos hstem,
    List.dropWhile_append_of_pos hstem]
  cases valueAfterBlanks? (r.dropWhile isNameChar) with
  | none => simp
  | some value =>
    by_cases hname : r.takeWhile isNameChar = []
    · rw [if_pos hname, hname]
      split_ifs
      · rfl
      · rw [Option.map_some, Option.bind_some, under?, Text.dropStem?_self, Option.map_none]
    · have hwhole : stem ++ r.takeWhile isNameChar ≠ [] := by simp [hname]
      rw [if_neg hname, if_neg hwhole, Option.map_some, Option.map_some, Option.bind_some, under?,
        Text.dropStem?_append hname, Option.map_some]

/-- A name after a stem is what follows the stem in the whole name. -/
theorem afterStem?_eq_bind {stem : Text} (hstem : ∀ c ∈ stem, isNameChar c) (s : Text) :
    afterStem? stem s = (afterStem? [] s).bind (under? stem) := by
  have hall : afterStem? [] s = nameAndValueAt? s := by
    rw [afterStem?, Text.dropLead?_nil, Option.bind_some]
  rw [hall, afterStem?]
  cases hs : Text.dropLead? stem s with
  | some r =>
    rw [Text.dropLead?_eq_some_iff.mp hs, Option.bind_some]
    exact nameAndValueAt?_append hstem r
  | none =>
    rw [Option.bind_none, eq_comm, Option.bind_eq_none_iff]
    intro d hd
    rw [Option.eq_none_iff_forall_ne_some]
    intro d' hd'
    -- a name under the stem would put the stem at the beginning of the text
    obtain ⟨hname, -⟩ := Text.dropStem?_eq_some_iff.mp (under?_eq_some_iff.mp hd').1
    have hbegin : Text.dropLead? stem s = some (d'.name ++ s.dropWhile isNameChar) := by
      rw [Text.dropLead?_eq_some_iff, ← List.append_assoc, ← hname,
        ← name_eq_of_nameAndValueAt? hd, List.takeWhile_append_dropWhile]
    rw [hs] at hbegin
    cases hbegin

/-! ### Lines and headers -/

theorem ofLine?_stem {stem : Text} (hstem : ∀ c ∈ stem, isNameChar c) (line : Text) :
    ofLine? stem line = (ofLine? [] line).bind (under? stem) := by
  rw [ofLine?, ofLine?, Option.bind_assoc]
  congr 1
  funext s
  cases s with
  | nil => rfl
  | cons c s =>
    rw [afterBlanks?_eq hstem, afterBlanks?_eq (by simp)]
    split_ifs
    · exact afterStem?_eq_bind hstem _
    · rfl

/-- **The definitions under a stem** are the definitions whose name goes on after the stem. -/
theorem ofSource_stem {stem : Text} (hstem : ∀ c ∈ stem, isNameChar c) (source : Bytes) :
    ofSource stem source = (ofSource [] source).filterMap (under? stem) := by
  rw [ofSource, ofSource, List.filterMap_filterMap]
  congr 1
  funext line
  exact ofLine?_stem hstem line.decodeLossy

end Definition

end NameTables
