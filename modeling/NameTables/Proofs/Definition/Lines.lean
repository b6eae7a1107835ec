import NameTables.Definition
import NameTables.Proofs.Text.Blank
import NameTables.Proofs.Text.Utf8

/-!
# A header line by line

The definitions of a header are those of its lines one after another, so a header may be taken
apart between any two lines and each part be treated on its own.

## Main definitions

* `Definition.LineStart`, `Definition.LineEnd` — what stands in front of the beginning of a line,
  and behind the end of one.

## Main statements

* `Definition.ofSource_append_of_lineStart`, `Definition.ofSource_append_of_lineEnd` — a header in
  two parts.
* `Definition.ofSource_line` — a header of one line.
* `Definition.ofLine?_blanks` — blanks around a line make no difference.
-/

namespace NameTables

namespace Definition

variable (stem : Text)

/-! ### One line -/

/-- Blanks around a line make no difference. -/
theorem ofLine?_blanks {w w' : Text} (hw : ∀ c ∈ w, isBlank c) (hw' : ∀ c ∈ w', isBlank c)
    (line : Text) : ofLine? stem (w ++ line ++ w') = ofLine? stem line := by
  rw [ofLine?, Text.trim_append_blanks hw hw', ofLine?]

/-- Written blanks around the octets of a line make no difference: they are read as blanks, even
where the line breaks off inside a character. -/
theorem ofLine?_decodeLossy_blanks {w w' : Text} (hw : ∀ c ∈ w, isBlank c)
    (hw' : ∀ c ∈ w', isBlank c) (line : Bytes) :
    ofLine? stem (Text.encode w ++ line ++ Text.encode w').decodeLossy
      = ofLine? stem line.decodeLossy := by
  rw [Bytes.decodeLossy_append _ (Utf8.fresh_encode w'), Bytes.decodeLossy_encode_append,
    Bytes.decodeLossy_encode, ofLine?_blanks stem hw hw']

/-! ### The lines of a header -/

/-- An empty last line defines nothing, so it does not matter whether there is one. -/
theorem ofSource_eq_filterMap_splitAt (source : Bytes) :
    ofSource stem source
      = (splitAt (· == 10) source).filterMap
          fun line : Bytes => ofLine? stem line.decodeLossy :=
  filterMap_splitEnded (f := fun line : Bytes => ofLine? stem line.decodeLossy) rfl source

/-- What stands in front of the beginning of a line. -/
def LineStart (above : Bytes) : Prop := above = [] ∨ above.getLast? = some 10

/-- What stands behind the end of a line. -/
def LineEnd (below : Bytes) : Prop := below = [] ∨ below.head? = some 10

@[simp] theorem ofSource_nil : ofSource stem [] = [] := rfl

theorem ofSource_line {line : Bytes} (hline : (10 : UInt8) ∉ line) :
    ofSource stem line = (ofLine? stem line.decodeLossy).toList := by
  rw [ofSource_eq_filterMap_splitAt, splitAt_of_not_mem hline, List.filterMap_cons]
  cases ofLine? stem line.decodeLossy <;> rfl

theorem ofSource_newline_cons (above below : Bytes) :
    ofSource stem (above ++ 10 :: below) = ofSource stem above ++ ofSource stem below := by
  simp only [ofSource_eq_filterMap_splitAt, splitAt_append_cons_self, List.filterMap_append]

theorem ofSource_append_of_lineStart {above : Bytes} (h : LineStart above) (below : Bytes) :
    ofSource stem (above ++ below) = ofSource stem above ++ ofSource stem below := by
  rcases h with rfl | h
  · rfl
  · obtain ⟨lines, rfl⟩ := List.getLast?_eq_some_iff.mp h
    rw [List.append_assoc, List.singleton_append, ofSource_newline_cons, ofSource_newline_cons,
      ofSource_nil, List.append_nil]

theorem ofSource_append_of_lineEnd (above : Bytes) {below : Bytes} (h : LineEnd below) :
    ofSource stem (above ++ below) = ofSource stem above ++ ofSource stem below := by
  rcases h with rfl | h
  · rw [List.append_nil, ofSource_nil, List.append_nil]
  · obtain ⟨lines, rfl⟩ := List.head?_eq_some_iff.mp h
    have hbelow := ofSource_newline_cons stem [] lines
    rw [List.nil_append, ofSource_nil, List.nil_append] at hbelow
    rw [ofSource_newline_cons, hbelow]

/-- Reading the header as a whole and cutting it into lines gives the same texts as cutting it
into lines and reading each. -/
theorem map_decodeLossy_linesOf (source : Bytes) :
    (linesOf source).map Bytes.decodeLossy = splitEnded (· == '\n') source.decodeLossy :=
  Bytes.map_decodeLossy_splitEnded source

end Definition

end NameTables
