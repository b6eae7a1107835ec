import Mathlib.Tactic.SplitIfs
import NameTables.Proofs.Artefact.Basic

/-!
# Reading an array of records back

No character of a name or a literal is one that ends a cell: names hold no quote and no slash,
literals no closing brace, and neither holds a blank or a line feed.  So the rows are read back
from the text alone, whatever the widths of the columns and whatever stands in front of them.

## Main definitions

* `Records.Cells` — the cells of a row as they are read back.
* `Records.readRow?`, `Records.read?` — the reader of a row and of an artefact.

## Main statements

* `Records.readRow?_row` — reading a row gives its cells.
* `Records.read?_render` — reading an artefact gives the cells of its rows.
* `Artefact.readBack_records` — what is read back from the artefact of a header.
-/

namespace NameTables

open Definition (IsName)

namespace Records

/-- The cells of a row, as they are read back. -/
structure Cells where
  /-- The name of the entry. -/
  name : Text
  /-- The aliases. -/
  aliases : List Text
  /-- The literal. -/
  literal : Text
  deriving DecidableEq, Repr

/-- The cells of an entry's row. -/
def Cells.ofEntry (e : Entry) : Cells := ⟨e.name, e.aliases, e.literal⟩

/-- The literal in what stands after the names: up to the brace, without the blanks in front. -/
def literalAt (s : Text) : Text := (s.takeWhile (· != '\x7d')).dropWhile (· == ' ')

/-- The row on a line, or `none` if there is no row on it. -/
def readRow? (line : Text) : Option Cells :=
  (Text.dropLead? "    \x7b\"".toList line).bind fun names =>
    (Text.dropLead? "\",".toList (names.dropWhile (· != '\x22'))).bind fun rest =>
      match Text.pieces (· == '/') (names.takeWhile (· != '\x22')) with
      | [] => none
      | name :: aliases => some ⟨name, aliases, literalAt rest⟩

/-- The rows of an artefact that begins with `opening`. -/
def read? (opening text : Text) : Option (List Cells) :=
  (Text.dropLead? opening text).map fun rows => (Text.pieces (· == '\n') rows).filterMap readRow?

/-! ### One row -/

/-- A row, part by part: the blanks of both columns stand between the cells. -/
theorem row_eq (nameWidth valueWidth : Nat) (e : Entry) :
    row nameWidth valueWidth e = "    \x7b".toList ++ (nameCell e
      ++ (List.replicate (nameWidth - (nameCell e).length + (valueWidth - e.literal.length + 1)) ' '
        ++ (e.literal ++ ['\x7d']))) := by
  rw [← List.replicate_append_replicate, List.replicate_succ]
  unfold row Text.padRight Text.padLeft
  simp only [List.append_assoc, List.cons_append]

/-- The quoted names, the blanks and the literal of a row with a text behind it. -/
theorem exists_row_append_eq (nameWidth valueWidth : Nat) (e : Entry) (tail : Text) :
    ∃ n, row nameWidth valueWidth e ++ tail
      = "    \x7b\"".toList ++ (e.display ++ '\x22' :: ','
          :: (List.replicate n ' ' ++ (e.literal ++ '\x7d' :: tail))) := by
  refine ⟨nameWidth - (nameCell e).length + (valueWidth - e.literal.length + 1), ?_⟩
  rw [row_eq]
  simp only [nameCell, List.append_assoc, List.cons_append]
  rfl

theorem literalAt_blanks {e : Entry} (he : e.WellFormed) (n : Nat) (tail : Text) :
    literalAt (List.replicate n ' ' ++ (e.literal ++ '\x7d' :: tail)) = e.literal := by
  have hbrace : '\x7d' ∉ List.replicate n ' ' ++ e.literal := by
    intro h
    rcases List.mem_append.mp h with h | h
    · exact absurd (List.eq_of_mem_replicate h) (by decide)
    · exact he.not_mem_literal (by decide) rfl h
  rw [literalAt, ← List.append_assoc, takeWhile_append_cons_self hbrace,
    dropWhile_replicate_append n fun h => ?_]
  exact he.not_mem_literal (by decide) rfl (List.mem_of_mem_head? h)

/-- Reading a row gives its cells, whatever stands after it on the line. -/
theorem readRow?_row (nameWidth valueWidth : Nat) {e : Entry} (he : e.WellFormed) (tail : Text) :
    readRow? (row nameWidth valueWidth e ++ tail) = some (Cells.ofEntry e) := by
  obtain ⟨n, hrow⟩ := exists_row_append_eq nameWidth valueWidth e tail
  have hquote : '\x22' ∉ e.display := he.not_mem_display (by decide) rfl
  have hliteral := literalAt_blanks he n tail
  rw [readRow?, hrow, Text.dropLead?_append, Option.bind_some, takeWhile_append_cons_self hquote,
    dropWhile_append_cons_self hquote, he.pieces_display]
  have hcomma : ∀ s : Text, Text.dropLead? "\",".toList ('\x22' :: ',' :: s) = some s :=
    fun _ => rfl
  rw [hcomma, Option.bind_some, hliteral]
  rfl

/-- A row is one line. -/
theorem newline_not_mem_row (nameWidth valueWidth : Nat) {e : Entry} (he : e.WellFormed) :
    '\n' ∉ row nameWidth valueWidth e := by
  obtain ⟨n, hrow⟩ := exists_row_append_eq nameWidth valueWidth e []
  have hdisplay : '\n' ∉ e.display := he.not_mem_display (by decide) rfl
  have hliteral : '\n' ∉ e.literal := he.not_mem_literal (by decide) rfl
  have hblanks : '\n' ∉ List.replicate n ' ' := fun h =>
    absurd (List.eq_of_mem_replicate h) (by decide)
  rw [List.append_nil] at hrow
  rw [hrow]
  simp [hdisplay, hliteral, hblanks]

/-! ### All rows -/

/-- The lines that hold the rows are read one after another, and what follows them goes on. -/
theorem filterMap_readRow?_join (nameWidth valueWidth : Nat) {entries : List Entry}
    (hentries : ∀ e ∈ entries, e.WellFormed) (rest : Text) :
    (splitAt (· == '\n')
        (Text.join ",\n".toList (entries.map (row nameWidth valueWidth)) ++ '\n' :: rest)).filterMap
        readRow?
      = entries.map Cells.ofEntry ++ (splitAt (· == '\n') rest).filterMap readRow? := by
  induction entries with
  | nil => rfl
  | cons e entries ih =>
    rw [List.forall_mem_cons] at hentries
    have hrow := newline_not_mem_row nameWidth valueWidth hentries.1
    cases entries with
    | nil =>
      have hread := readRow?_row nameWidth valueWidth hentries.1 []
      rw [List.append_nil] at hread
      rw [List.map_singleton, Text.join_singleton, splitAt_append_cons_self,
        splitAt_of_not_mem hrow, List.singleton_append, List.filterMap_cons_some hread]
      rfl
    | cons e' entries =>
      -- the comma stands on the line of the row
      have hcomma : '\n' ∉ row nameWidth valueWidth e ++ [','] := by
        rw [List.mem_append, not_or]
        exact ⟨hrow, by decide⟩
      have hline : ∀ s t : Text, row nameWidth valueWidth e ++ (",\n".toList ++ s) ++ t
          = (row nameWidth valueWidth e ++ [',']) ++ '\n' :: (s ++ t) := by
        intro s t
        simp
      rw [List.map_cons, List.map_cons, Text.join_cons_cons, hline, splitAt_append_cons_self,
        splitAt_of_not_mem hcomma, List.singleton_append,
        List.filterMap_cons_some (readRow?_row nameWidth valueWidth hentries.1 [',']),
        ← List.map_cons, ih hentries.2]
      rfl

/-- Reading an artefact gives the cells of its rows. -/
theorem read?_render {t : Table} {order : RowOrder} (ht : ∀ e ∈ t.ordered order, e.WellFormed)
    (comment typeName valueType arrayName : Text) :
    read? (opening comment typeName valueType arrayName)
        (render t comment typeName valueType arrayName order)
      = some ((t.ordered order).map Cells.ofEntry) := by
  have hclosing : (splitAt (· == '\n') closing).filterMap readRow? = [] := by decide
  rw [read?, render, List.append_assoc, Text.dropLead?_append, Option.map_some, body]
  congr 1
  split_ifs with hempty
  · rw [List.isEmpty_iff.mp hempty]
    exact hclosing
  · have hrows := filterMap_readRow?_join
      (widest ((t.ordered order).map nameCell)) (widest ((t.ordered order).map Entry.literal)) ht
      closing
    rw [hclosing, List.append_nil] at hrows
    rw [List.append_assoc]
    exact hrows

end Records

/-- Well-formed entries with the same cells are the same: the value is that of the literal. -/
theorem Records.Cells.ofEntry_inj {e e' : Entry} (he : e.WellFormed) (he' : e'.WellFormed)
    (h : ofEntry e = ofEntry e') : e = e' := by
  obtain ⟨name, value, literal, aliases⟩ := e
  obtain ⟨name', value', literal', aliases'⟩ := e'
  obtain ⟨rfl, rfl, rfl⟩ : name = name' ∧ aliases = aliases' ∧ literal = literal' := by
    simpa [ofEntry] using h
  have hvalue : some value = some value' := he.literal.symm.trans he'.literal
  rw [Option.some.inj hvalue]

theorem Records.Cells.map_ofEntry_inj {l l' : List Entry} (hl : ∀ e ∈ l, e.WellFormed)
    (hl' : ∀ e ∈ l', e.WellFormed) (h : l.map ofEntry = l'.map ofEntry) : l = l' := by
  induction l generalizing l' with
  | nil => exact (List.map_eq_nil_iff.mp h.symm).symm
  | cons e l ih =>
    cases l' with
    | nil => cases h
    | cons e' l' =>
      rw [List.forall_mem_cons] at hl hl'
      rw [List.map_cons, List.map_cons, List.cons.injEq] at h
      rw [ofEntry_inj hl.1 hl'.1 h.1, ih hl.2 hl'.2 h.2]

namespace Artefact

variable {stem comment typeName valueType arrayName : Text} {order : RowOrder} {source : Bytes}
  {sourceName : Text} {artefact : Artefact}

theorem read?_records
    (h : generate source sourceName ⟨stem, .records typeName valueType arrayName order, comment⟩
      = .ok artefact) :
    Records.read? (Records.opening comment typeName valueType arrayName) artefact.text
      = some (((tableOf stem source).ordered order).map Records.Cells.ofEntry) := by
  obtain ⟨-, htext, -⟩ := generate_eq_ok_iff.mp h
  have hrows : ∀ e ∈ (tableOf stem source).ordered order, e.WellFormed := wellFormed_of_mem_ordered
  have hread := Records.read?_render hrows comment typeName valueType arrayName
  rwa [Except.ok.inj htext] at hread

/-- **An array of records loses nothing.**  From the text of the artefact alone a reader that
knows the request gets the rows of the table: their names, aliases and literals, in order.  What
it gets is well formed, its literals have the values of the entries, and in the order of the
header its counts are those of the artefact.  So headers with the same text have the same rows. -/
theorem readBack_records
    (h : generate source sourceName ⟨stem, .records typeName valueType arrayName order, comment⟩
      = .ok artefact) :
    ∃ rows : List Records.Cells,
      Records.read? (Records.opening comment typeName valueType arrayName) artefact.text
          = some rows
        ∧ rows = ((tableOf stem source).ordered order).map Records.Cells.ofEntry
        ∧ (∀ row ∈ rows, IsName row.name ∧ ∀ a ∈ row.aliases, IsName a)
        ∧ rows.map (fun row => Literal.value? row.literal)
            = ((tableOf stem source).ordered order).map (fun e => some e.value)
        ∧ (order = .encounter → rows.length = artefact.entries
            ∧ total (rows.map fun row => row.aliases.length) = artefact.aliases)
        ∧ ∀ (source' : Bytes) (sourceName' : Text) (artefact' : Artefact),
            generate source' sourceName'
                ⟨stem, .records typeName valueType arrayName order, comment⟩ = .ok artefact' →
              artefact'.text = artefact.text →
                (tableOf stem source').ordered order = (tableOf stem source).ordered order := by
  obtain ⟨-, -, hentries, haliases, -⟩ := generate_eq_ok_iff.mp h
  refine ⟨_, read?_records h, rfl, fun row hrow => ?_, ?_, ?_, ?_⟩
  · obtain ⟨e, he, rfl⟩ := List.mem_map.mp hrow
    have hform := wellFormed_of_mem_ordered e he
    exact ⟨hform.name, hform.aliases⟩
  · rw [List.map_map]
    exact List.map_congr_left fun e he => (wellFormed_of_mem_ordered e he).literal
  · rintro rfl
    rw [hentries, haliases, List.length_map, List.map_map]
    exact ⟨rfl, rfl⟩
  · intro source' sourceName' artefact' h' htext
    have hread' := read?_records h'
    rw [htext, read?_records h, Option.some.injEq] at hread'
    exact Records.Cells.map_ofEntry_inj wellFormed_of_mem_ordered wellFormed_of_mem_ordered
      hread'.symm

/-- An alias in front of its target, a name defined twice, and two literals of unequal width. -/
theorem readBack_records_keysyms :
    let source : Bytes := Text.encode
      "#define K_Alpha K_A\n#define K_A 0x41\n#define K_B 7\n#define K_B 66u".toList
    let request : Request :=
      ⟨"K_".toList, .records "sym_t".toList "int".toList "syms".toList .encounter, "made".toList⟩
    ∃ artefact, generate source "a.h".toList request = .ok artefact
      ∧ Records.read? (Records.opening "made".toList "sym_t".toList "int".toList "syms".toList)
          artefact.text
        = some [⟨"A".toList, ["Alpha".toList], "0x41".toList⟩, ⟨"B".toList, [], "66u".toList⟩] := by
  intro source request
  have hmade : ∃ artefact, generate source "a.h".toList request = .ok artefact := ⟨_, rfl⟩
  obtain ⟨artefact, h⟩ := hmade
  obtain ⟨rows, hread, hrows, -⟩ := readBack_records h
  refine ⟨artefact, h, ?_⟩
  rw [hread, hrows]
  decide

end Artefact

end NameTables
