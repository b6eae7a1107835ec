import NameTables.Artefact.Basic
import NameTables.Proofs.Definition.Lines

/-!
# Edits of a header that change nothing

What is made from a header depends on its matching lines only.  The edits below leave them as
they are: another kind of line end, a line end after the last line, lines that define nothing,
blanks around a line, and writing the header anew after reading it as UTF-8.

## Main definitions

* `Bytes.withReturns` — a carriage return in front of each line feed.
* `Artefact.Edit` — the edits.

## Main statements

* `Artefact.generate_eq_of_edit` — an edit changes neither the artefact nor the failure.
-/

namespace NameTables

/-- The byte string with a carriage return in front of each line feed. -/
def Bytes.withReturns (source : Bytes) : Bytes :=
  source.flatMap fun b => if b = 10 then [13, 10] else [b]

namespace Bytes

theorem withReturns_of_not_mem {line : Bytes} (hline : (10 : UInt8) ∉ line) :
    withReturns line = line := by
  induction line with
  | nil => rfl
  | cons b line ih =>
    rw [List.mem_cons, not_or] at hline
    rw [withReturns, List.flatMap_cons, if_neg (Ne.symm hline.1)]
    exact congrArg (b :: ·) (ih hline.2)

theorem withReturns_newline_cons {line : Bytes} (hline : (10 : UInt8) ∉ line) (below : Bytes) :
    withReturns (line ++ 10 :: below) = (line ++ [13]) ++ 10 :: withReturns below := by
  have happend : withReturns (line ++ 10 :: below)
      = withReturns line ++ 13 :: 10 :: withReturns below := by
    rw [withReturns, List.flatMap_append]
    rfl
  rw [happend, withReturns_of_not_mem hline, List.append_assoc, List.singleton_append]

/-- Writing what is read from a header leaves its line feeds where they are. -/
theorem encode_decodeLossy_newline_cons (line below : Bytes) :
    Text.encode (decodeLossy (line ++ 10 :: below))
      = Text.encode (decodeLossy line) ++ 10 :: Text.encode (decodeLossy below) := by
  rw [decodeLossy_newline_cons, Text.encode, List.flatMap_append]
  rfl

end Bytes

namespace Artefact

open Definition

/-- The edits of a header that leave its definitions under a stem as they are. -/
inductive Edit (stem : Text) : Bytes → Bytes → Prop
  /-- Each line ends with a carriage return and a line feed. -/
  | returns (source : Bytes) : Edit stem source source.withReturns
  /-- A line feed stands at the end. -/
  | ended (source : Bytes) : Edit stem source (source ++ [10])
  /-- A line that defines nothing stands above the line that begins with `below`. -/
  | insertedAbove (above line below : Bytes) (hstart : LineStart above)
      (hline : (10 : UInt8) ∉ line) (hnone : ofLine? stem line.decodeLossy = none) :
      Edit stem (above ++ below) (above ++ (line ++ 10 :: below))
  /-- A line that defines nothing stands below the line that ends `above`. -/
  | insertedBelow (above line below : Bytes) (hend : LineEnd below)
      (hline : (10 : UInt8) ∉ line) (hnone : ofLine? stem line.decodeLossy = none) :
      Edit stem (above ++ below) (above ++ 10 :: (line ++ below))
  /-- A line that defines nothing, without a line feed, stands after the last line. -/
  | insertedLast (above line : Bytes) (hstart : LineStart above)
      (hline : (10 : UInt8) ∉ line) (hnone : ofLine? stem line.decodeLossy = none) :
      Edit stem above (above ++ line)
  /-- Blanks other than line feeds stand around a line. -/
  | blanks (above line below : Bytes) (w w' : Text) (hstart : LineStart above)
      (hend : LineEnd below) (hline : (10 : UInt8) ∉ line)
      (hw : ∀ c ∈ w, isBlank c ∧ c ≠ '\n') (hw' : ∀ c ∈ w', isBlank c ∧ c ≠ '\n') :
      Edit stem (above ++ (line ++ below))
        (above ++ ((Text.encode w ++ line ++ Text.encode w') ++ below))
  /-- The header is read as UTF-8 and written anew. -/
  | rewritten (source : Bytes) : Edit stem source (Text.encode source.decodeLossy)

variable {stem : Text}

theorem ofSource_withReturns (source : Bytes) :
    ofSource stem source.withReturns = ofSource stem source := by
  induction source using cut_induction (10 : UInt8) with
  | piece line hline => rw [Bytes.withReturns_of_not_mem hline]
  | cut line below hline ih =>
    have hline' : (10 : UInt8) ∉ line ++ [13] := by
      rw [List.mem_append, List.mem_singleton, not_or]
      exact ⟨hline, by decide⟩
    -- the carriage return is a blank behind the line
    have hreturn : ofLine? stem (Bytes.decodeLossy (line ++ [13]))
        = ofLine? stem (Bytes.decodeLossy line) :=
      ofLine?_decodeLossy_blanks stem (List.all_eq_true.mp rfl : ∀ c ∈ ([] : Text), isBlank c)
        (List.all_eq_true.mp rfl : ∀ c ∈ ['\r'], isBlank c) line
    rw [Bytes.withReturns_newline_cons hline, ofSource_newline_cons, ofSource_newline_cons, ih,
      ofSource_line stem hline', hreturn, ofSource_line stem hline]

/-- A line read and written anew is still one line, and reads as before. -/
theorem ofSource_encode_decodeLossy_line {line : Bytes} (hline : (10 : UInt8) ∉ line) :
    ofSource stem (Text.encode line.decodeLossy) = ofSource stem line := by
  have hline' : (10 : UInt8) ∉ Text.encode line.decodeLossy := fun h =>
    Bytes.newline_not_mem_decodeLossy hline (Bytes.newline_mem_of_mem_encode h)
  rw [ofSource_line stem hline', ofSource_line stem hline, Bytes.decodeLossy_encode]

theorem ofSource_encode_decodeLossy (source : Bytes) :
    ofSource stem (Text.encode source.decodeLossy) = ofSource stem source := by
  induction source using cut_induction (10 : UInt8) with
  | piece line hline => exact ofSource_encode_decodeLossy_line hline
  | cut line below hline ih =>
    rw [Bytes.encode_decodeLossy_newline_cons, ofSource_newline_cons, ofSource_newline_cons, ih,
      ofSource_encode_decodeLossy_line hline]

/-- A line that defines nothing adds nothing. -/
theorem ofSource_of_none {line : Bytes} (hline : (10 : UInt8) ∉ line)
    (hnone : ofLine? stem line.decodeLossy = none) : ofSource stem line = [] := by
  rw [ofSource_line stem hline, hnone]
  rfl

theorem ofSource_blanks {line : Bytes} (hline : (10 : UInt8) ∉ line) {w w' : Text}
    (hw : ∀ c ∈ w, isBlank c ∧ c ≠ '\n') (hw' : ∀ c ∈ w', isBlank c ∧ c ≠ '\n') :
    ofSource stem (Text.encode w ++ line ++ Text.encode w') = ofSource stem line := by
  have hline' : (10 : UInt8) ∉ Text.encode w ++ line ++ Text.encode w' := by
    intro h
    rcases List.mem_append.mp h with h | h
    · rcases List.mem_append.mp h with h | h
      · exact (hw _ (Bytes.newline_mem_of_mem_encode h)).2 rfl
      · exact hline h
    · exact (hw' _ (Bytes.newline_mem_of_mem_encode h)).2 rfl
  rw [ofSource_line stem hline', ofSource_line stem hline,
    ofLine?_decodeLossy_blanks stem (fun c hc => (hw c hc).1) (fun c hc => (hw' c hc).1)]

/-- An edit leaves the definitions of a header as they are. -/
theorem ofSource_eq_of_edit {source source' : Bytes} (h : Edit stem source source') :
    ofSource stem source' = ofSource stem source := by
  cases h with
  | returns => exact ofSource_withReturns source
  | ended =>
    rw [ofSource_newline_cons, ofSource_nil, List.append_nil]
  | insertedAbove above line below hstart hline hnone =>
    rw [ofSource_append_of_lineStart stem hstart, ofSource_newline_cons,
      ofSource_of_none hline hnone, ofSource_append_of_lineStart stem hstart]
    rfl
  | insertedBelow above line below hend hline hnone =>
    rw [ofSource_newline_cons, ofSource_append_of_lineEnd stem line hend,
      ofSource_of_none hline hnone, ofSource_append_of_lineEnd stem above hend]
    rfl
  | insertedLast _ line hstart hline hnone =>
    rw [ofSource_append_of_lineStart stem hstart, ofSource_of_none hline hnone, List.append_nil]
  | blanks above line below w w' hstart hend hline hw hw' =>
    rw [ofSource_append_of_lineStart stem hstart, ofSource_append_of_lineEnd stem _ hend,
      ofSource_blanks hline hw hw', ofSource_append_of_lineStart stem hstart,
      ofSource_append_of_lineEnd stem line hend]
  | rewritten => exact ofSource_encode_decodeLossy source

/-- **What is made from a header depends on its matching lines only**: an edit changes neither
the artefact nor the failure, and it makes no difference whether a header is read line by line or
as a whole. -/
theorem generate_eq_of_edit (request : Request) (sourceName : Text) (source : Bytes) :
    (∀ source', Edit request.stem source source' →
        generate source' sourceName request = generate source sourceName request)
      ∧ (linesOf source).map Bytes.decodeLossy = splitEnded (· == '\n') source.decodeLossy := by
  refine ⟨fun source' h => ?_, map_decodeLossy_linesOf source⟩
  have htable : tableOf request.stem source' = tableOf request.stem source :=
    congrArg (Table.build request.stem) (ofSource_eq_of_edit h)
  rw [generate, htable, generate]

/-- A line that breaks off inside a character, followed by a no-break space and an em space. -/
theorem generate_eq_of_edit_at_broken_character :
    let line : Bytes := Text.encode "#define KEY_A 30 /* ".toList ++ [0xE2, 0x80]
    let rest : Bytes := Text.encode "\n#define KEY_B KEY_A".toList
    let padded : Bytes := Text.encode [] ++ line ++ Text.encode "\u00A0\u2003".toList
    let request : Request := ⟨"KEY_".toList, .slots "names".toList none, "made".toList⟩
    let text : Text := ("// made\n\nchar *names[31] = \x7b0\x7d;\n\nvoid init_names (void) \x7b\n"
      ++ "    names[ 30 ] = \"A/B\";\n\x7d\n").toList
    Edit request.stem ([] ++ (line ++ rest)) ([] ++ (padded ++ rest))
      ∧ generate ([] ++ (line ++ rest)) "a.h".toList request = .ok ⟨text, 1, 1, 0⟩
      ∧ generate ([] ++ (padded ++ rest)) "a.h".toList request = .ok ⟨text, 1, 1, 0⟩ := by
  intro line rest padded request text
  have hblanks : ∀ c ∈ "\u00A0\u2003".toList, (isBlank c && c != '\n') = true :=
    List.all_eq_true.mp rfl
  have h : Edit request.stem ([] ++ (line ++ rest)) ([] ++ (padded ++ rest)) :=
    Edit.blanks [] line rest [] "\u00A0\u2003".toList (.inl rfl) (.inr (by decide)) (by decide)
      (fun c hc => (List.not_mem_nil hc).elim) (fun c hc => by simpa using hblanks c hc)
  have hmade : generate ([] ++ (line ++ rest)) "a.h".toList request = .ok ⟨text, 1, 1, 0⟩ := by
    decide +kernel
  exact ⟨h, hmade, ((generate_eq_of_edit request "a.h".toList _).1 _ h).trans hmade⟩

end Artefact

end NameTables
