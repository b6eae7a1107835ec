import NameTables.Proofs.Artefact.Records
import NameTables.Proofs.Text.Width

/-!
# The columns of an array of records

A column is measured in octets and padded in characters.  Names and literals are ASCII, so the two
agree: every line is as long as any other, the names begin and the literals end one below the other,
and the widest cell of a column needs no padding.

## Main definitions

* `Records.Fits` — how the row of an entry lies on its line.

## Main statements

* `Records.exists_widest` — some cell is as wide as the column, and none is wider.
* `Records.fits_row` — the row of an entry fits the columns that its cells fit.
* `Artefact.columns_records` — the lines of an array of records.
-/

namespace NameTables

open Definition (isNameChar)

/-! ### Names and literals are ASCII -/

theorem Definition.toNat_lt_of_isNameChar {c : Char} (h : isNameChar c = true) : c.toNat < 128 := by
  have hname := (Definition.isNameChar_iff c).mp h
  omega

namespace Entry

variable {e : Entry}

theorem WellFormed.isAscii_display (he : e.WellFormed) : Text.IsAscii e.display := by
  intro c hc
  by_cases hslash : c = '/'
  · rw [hslash]
    decide
  · refine Definition.toNat_lt_of_isNameChar ?_
    by_contra hname
    exact he.not_mem_display hslash (Bool.eq_false_iff.mpr hname) hc

theorem WellFormed.isAscii_literal (he : e.WellFormed) : Text.IsAscii e.literal := by
  intro c hc
  rcases Literal.chars_of_value? he.literal c hc with rfl | hname
  · decide
  · exact Definition.toNat_lt_of_isNameChar hname

theorem WellFormed.isAscii_nameCell (he : e.WellFormed) : Text.IsAscii (Records.nameCell e) := by
  have hquote : Text.IsAscii ['\x22'] := by decide
  have hcomma : Text.IsAscii ['\x22', ','] := by decide
  exact (hquote.append he.isAscii_display).append hcomma

end Entry

namespace Records

/-- The row of an entry on its line, in columns of the given widths: it begins with the brace and
the name cell and ends with the literal and the brace, with blanks between, and neither cell is
wider than its column. -/
structure Fits (nameWidth valueWidth : Nat) (e : Entry) (line : Text) : Prop where
  /-- At least one blank stands between the cells, and nothing else. -/
  spread : ∃ gap, 1 ≤ gap ∧ line = "    \x7b".toList ++ (nameCell e
    ++ (List.replicate gap ' ' ++ (e.literal ++ ['\x7d'])))
  /-- The line is as long as the columns are wide. -/
  length : line.length = nameWidth + valueWidth + 7
  /-- It is so in octets too. -/
  byteLength : Text.byteLength line = line.length
  /-- Nothing ends the line. -/
  whole : '\n' ∉ line
  /-- The name cell fits its column. -/
  name : (nameCell e).length ≤ nameWidth
  /-- The literal fits its column. -/
  literal : e.literal.length ≤ valueWidth

/-- The row of an entry fits the columns that its cells fit. -/
theorem fits_row {nameWidth valueWidth : Nat} {e : Entry} (he : e.WellFormed)
    (hname : (nameCell e).length ≤ nameWidth) (hliteral : e.literal.length ≤ valueWidth) :
    Fits nameWidth valueWidth e (row nameWidth valueWidth e) where
  spread := ⟨_, by omega, row_eq nameWidth valueWidth e⟩
  length := by
    have hlead : "    \x7b".toList.length = 5 := rfl
    simp only [row_eq, List.length_append, List.length_replicate, List.length_singleton, hlead]
    omega
  byteLength := by
    have hlead : Text.IsAscii "    \x7b".toList := by decide
    have hbrace : Text.IsAscii ['\x7d'] := by decide
    have hblank : ' '.toNat < 128 := by decide
    rw [row_eq]
    exact Text.byteLength_eq_length <| hlead.append <| he.isAscii_nameCell.append <|
      (Text.isAscii_replicate _ hblank).append <| he.isAscii_literal.append hbrace
  whole := newline_not_mem_row nameWidth valueWidth he
  name := hname
  literal := hliteral

/-- Some cell is as wide as the column, and none is wider. -/
theorem exists_widest {entries : List Entry} {cell : Entry → Text} (hne : entries ≠ [])
    (hascii : ∀ e ∈ entries, Text.IsAscii (cell e)) :
    (∃ e ∈ entries, (cell e).length = widest (entries.map cell))
      ∧ ∀ e ∈ entries, (cell e).length ≤ widest (entries.map cell) := by
  have hmax : (entries.map fun e => (cell e).length).max? = some (widest (entries.map cell)) := by
    have hwidths : (entries.map cell).map Text.byteLength = entries.map fun e => (cell e).length := by
      rw [List.map_map]
      exact List.map_congr_left fun e he => Text.byteLength_eq_length (hascii e he)
    obtain ⟨e, rest, rfl⟩ := List.exists_cons_of_ne_nil hne
    rw [widest, hwidths, List.map_cons, List.max?_cons', List.foldl_cons, Nat.zero_max]
  obtain ⟨hmem, hle⟩ := List.max?_eq_some_iff.mp hmax
  exact ⟨List.mem_map.mp hmem, List.forall_mem_map.mp hle⟩

/-- Every row fits the columns, and each column is as wide as some cell of it. -/
theorem fits_rows {entries : List Entry} (hne : entries ≠ [])
    (hentries : ∀ e ∈ entries, e.WellFormed) :
    ∃ nameWidth valueWidth, List.Forall₂ (Fits nameWidth valueWidth) entries (rows entries)
      ∧ (∃ e ∈ entries, (nameCell e).length = nameWidth)
      ∧ ∃ e ∈ entries, e.literal.length = valueWidth := by
  obtain ⟨hname, hnames⟩ := exists_widest hne fun e he => (hentries e he).isAscii_nameCell
  obtain ⟨hliteral, hliterals⟩ := exists_widest hne fun e he => (hentries e he).isAscii_literal
  refine ⟨_, _, ?_, hname, hliteral⟩
  rw [rows, List.forall₂_map_right_iff, List.forall₂_same]
  exact fun e he => fits_row (hentries e he) (hnames e he) (hliterals e he)

end Records

/-- A table with an entry has a row, in either order. -/
theorem Table.ordered_ne_nil {t : Table} (h : t.entries ≠ []) (order : RowOrder) :
    t.ordered order ≠ [] := by
  cases order with
  | encounter => exact h
  | ascending =>
    obtain ⟨e, he⟩ := List.exists_mem_of_ne_nil _ h
    have hkey : e.value ∈ t.byValue.map Prod.fst := by
      rw [byValue, Ranking.mem_keys_ofList, List.map_map]
      exact List.mem_map_of_mem he
    intro hnil
    rw [ordered, List.map_eq_nil_iff] at hnil
    rw [hnil] at hkey
    exact List.not_mem_nil hkey

/-- **The columns of an array of records.**  Between the opening and the closing stand the lines of
the rows, at least one, with a comma after each but the last.  On every line the name cell begins
behind the brace and the literal ends in front of the other one, with a blank or more between, and
all lines are of one length; and some name cell and some literal are as wide as their columns. -/
theorem Artefact.columns_records {stem comment typeName valueType arrayName : Text}
    {order : RowOrder} {source : Bytes} {sourceName : Text} {artefact : Artefact}
    (h : generate source sourceName ⟨stem, .records typeName valueType arrayName order, comment⟩
      = .ok artefact) :
    ∃ (lines : List Text) (nameWidth valueWidth : Nat),
      artefact.text = Records.opening comment typeName valueType arrayName
          ++ (Text.join ",\n".toList lines ++ '\n' :: Records.closing)
        ∧ 1 ≤ lines.length
        ∧ List.Forall₂ (Records.Fits nameWidth valueWidth) ((tableOf stem source).ordered order)
          lines
        ∧ (∃ e ∈ (tableOf stem source).ordered order, (Records.nameCell e).length = nameWidth)
        ∧ ∃ e ∈ (tableOf stem source).ordered order, e.literal.length = valueWidth := by
  obtain ⟨hentries, hrender, -⟩ := generate_eq_ok_iff.mp h
  have hne := Table.ordered_ne_nil hentries order
  obtain ⟨nameWidth, valueWidth, hfits, hname, hliteral⟩ :=
    Records.fits_rows hne wellFormed_of_mem_ordered
  refine ⟨_, nameWidth, valueWidth, ?_, ?_, hfits, hname, hliteral⟩
  · rw [← Except.ok.inj hrender, Records.render, Records.body, if_neg (by simpa using hne)]
    simp only [List.append_assoc, List.singleton_append]
  · rw [← hfits.length_eq]
    exact List.length_pos_of_ne_nil hne

/-- Names with aliases, a value that two names share, and a negative one, by value. -/
theorem Artefact.columns_records_keysyms :
    let source : Bytes := Text.encode
      "#define K_A 0x0041\n#define K_Alpha K_A\n#define K_B 65u\n#define K_OFF -1".toList
    let request : Request :=
      ⟨"K_".toList, .records "sym_t".toList "int".toList "syms".toList .ascending, "made".toList⟩
    ∃ artefact, generate source "a.h".toList request = .ok artefact
      ∧ ∃ (lines : List Text) (nameWidth valueWidth : Nat),
        artefact.text = Records.opening "made".toList "sym_t".toList "int".toList "syms".toList
            ++ (Text.join ",\n".toList lines ++ '\n' :: Records.closing)
          ∧ List.Forall₂ (Records.Fits nameWidth valueWidth)
            ((tableOf "K_".toList source).ordered .ascending) lines
          ∧ (tableOf "K_".toList source).ordered .ascending
            = [⟨"OFF".toList, -1, "-1".toList, []⟩, ⟨"B".toList, 65, "65u".toList, []⟩] := by
  intro source request
  have hmade : ∃ artefact, generate source "a.h".toList request = .ok artefact := ⟨_, rfl⟩
  obtain ⟨artefact, h⟩ := hmade
  obtain ⟨lines, nameWidth, valueWidth, htext, -, hfits, -⟩ := columns_records h
  exact ⟨artefact, h, lines, nameWidth, valueWidth, htext, hfits, by decide⟩

end NameTables
