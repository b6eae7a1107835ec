import Mathlib.Logic.Relation
import NameTables.Path
import NameTables.Proofs.Text.Cutting

/-!
# Spellings of a path

A path may be spelled in many ways: a slash may be doubled, an inner `.` put in, a slash put at the
end.  None of this changes the parts of the path.

## Main definitions

* `Path.Respelled` — one such change, somewhere in a spelling.
* `Path.Respells` — two spellings that such changes lead between.

## Main statements

* `Path.respells_iff_same` — changes lead between two spellings exactly when their parts are the
  same.
* `Path.isAbsolute_join` — what is put below an absolute path is absolute.
-/

namespace NameTables

namespace Path

/-- A path spelled once more, with one change. -/
inductive Respelled : Path → Path → Prop
  /-- A slash is doubled. -/
  | doubled (a b : Text) : Respelled ⟨a ++ '/' :: b⟩ ⟨a ++ '/' :: '/' :: b⟩
  /-- An inner segment `.` is put in. -/
  | dotted (a b : Text) : Respelled ⟨a ++ '/' :: b⟩ ⟨a ++ '/' :: '.' :: '/' :: b⟩
  /-- A slash is put at the end. -/
  | ended (a : Text) (ha : a ≠ []) : Respelled ⟨a⟩ ⟨a ++ ['/']⟩

/-- Two spellings of one path: changes lead from one to the other, forwards and backwards. -/
def Respells : Path → Path → Prop := Relation.EqvGen Respelled

theorem same_iff {p q : Path} : p.same q ↔ p.parts = q.parts := decide_eq_true_iff

/-! ### Segments -/

@[simp] theorem segments_nil : segments ⟨[]⟩ = [] := rfl

theorem segments_append_slash (a b : Text) :
    segments ⟨a ++ '/' :: b⟩ = segments ⟨a⟩ ++ segments ⟨b⟩ := by
  simp only [segments, Text.pieces, splitAt_append_cons_self, List.filter_append]

theorem segments_slash (b : Text) : segments ⟨'/' :: b⟩ = segments ⟨b⟩ :=
  segments_append_slash [] b

theorem segments_dot_slash (b : Text) : segments ⟨'.' :: '/' :: b⟩ = ['.'] :: segments ⟨b⟩ :=
  segments_append_slash ['.'] b

/-- The first piece of a relative path begins as the path does. -/
theorem exists_splitAt_cons {c : Char} (hc : c ≠ '/') (a : Text) :
    ∃ piece pieces, splitAt (· == '/') (c :: a) = (c :: piece) :: pieces := by
  obtain ⟨piece, pieces, hpieces⟩ := List.exists_cons_of_ne_nil (splitAt_ne_nil (· == '/') a)
  refine ⟨piece, pieces, ?_⟩
  rw [splitAt_cons, if_neg (by simpa using hc), hpieces, consFirst_cons]

/-- A relative path that is not empty has a segment. -/
theorem segments_ne_nil {c : Char} (hc : c ≠ '/') (a : Text) : segments ⟨c :: a⟩ ≠ [] := by
  obtain ⟨piece, pieces, hpieces⟩ := exists_splitAt_cons hc a
  rw [segments, Text.pieces, hpieces, List.filter_cons_of_pos rfl]
  exact List.cons_ne_nil _ _

/-! ### Parts -/

theorem isAbsolute_eq_decide (p : Path) : p.isAbsolute = decide (p.text.head? = some '/') := by
  rw [isAbsolute]
  split
  · next h => simp [h]
  · next h =>
    refine (decide_eq_false fun hhead => ?_).symm
    obtain ⟨s, hs⟩ := List.head?_eq_some_iff.mp hhead
    exact h s hs

theorem isAbsolute_append {a : Text} (ha : a ≠ []) (b : Text) :
    isAbsolute ⟨a ++ b⟩ = isAbsolute ⟨a⟩ := by
  rw [isAbsolute_eq_decide, isAbsolute_eq_decide, List.head?_append_of_ne_nil a ha]

/-- Whether a path begins at the root is settled with the first slash. -/
theorem isAbsolute_slash (a b c : Text) :
    isAbsolute ⟨a ++ '/' :: b⟩ = isAbsolute ⟨a ++ '/' :: c⟩ := by
  cases a with
  | nil => rfl
  | cons d a =>
    rw [isAbsolute_append (List.cons_ne_nil d a), isAbsolute_append (List.cons_ne_nil d a)]

theorem parts_of_isAbsolute {p : Path} (h : p.isAbsolute) :
    p.parts = .root :: innerParts p.segments := by
  rw [parts, if_pos h]

/-- The first segment of a relative path has a part even if it is `.`. -/
theorem parts_of_relative {p : Path} (h : ¬ p.isAbsolute) {s : Text} {rest : List Text}
    (hsegments : p.segments = s :: rest) :
    p.parts = (if s = ['.'] then .here else partOf s) :: innerParts rest := by
  rw [parts, if_neg h, hsegments]
  dsimp only
  split_ifs with hdot
  · rfl
  · simp [innerParts, hdot]

/-- Paths with the same segments have the same parts if both begin at the root or neither does. -/
theorem parts_congr {p q : Path} (hroot : p.isAbsolute = q.isAbsolute)
    (hsegments : p.segments = q.segments) : p.parts = q.parts := by
  rw [parts, parts, hroot, hsegments]

theorem innerParts_dot (s t : List Text) :
    innerParts (s ++ ['.'] :: t) = innerParts (s ++ t) := by
  simp [innerParts]

/-- An inner segment `.` has no part. -/
theorem parts_dotted (a b : Text) :
    parts ⟨a ++ '/' :: '.' :: '/' :: b⟩ = parts ⟨a ++ '/' :: b⟩ := by
  have hdotted : segments ⟨a ++ '/' :: '.' :: '/' :: b⟩
      = segments ⟨a⟩ ++ ['.'] :: segments ⟨b⟩ := by
    rw [segments_append_slash, segments_dot_slash]
  have hplain : segments ⟨a ++ '/' :: b⟩ = segments ⟨a⟩ ++ segments ⟨b⟩ :=
    segments_append_slash a b
  have hroot : isAbsolute ⟨a ++ '/' :: '.' :: '/' :: b⟩ = isAbsolute ⟨a ++ '/' :: b⟩ :=
    isAbsolute_slash a _ b
  by_cases habs : isAbsolute ⟨a ++ '/' :: b⟩
  · rw [parts_of_isAbsolute habs, parts_of_isAbsolute (hroot.trans habs), hdotted, hplain,
      innerParts_dot]
  · -- the first segment of a relative path is in front of the change
    cases a with
    | nil => exact absurd rfl habs
    | cons c a =>
      have hc : c ≠ '/' := by
        rintro rfl
        exact habs rfl
      obtain ⟨s, rest, hs⟩ := List.exists_cons_of_ne_nil (segments_ne_nil hc a)
      rw [hs] at hplain hdotted
      have hplain' := parts_of_relative habs hplain
      have hdotted' := parts_of_relative (hroot ▸ habs) hdotted
      rw [hplain', hdotted']
      congr 1
      exact innerParts_dot rest _

theorem Respelled.parts_eq {p q : Path} (h : Respelled p q) : p.parts = q.parts := by
  cases h with
  | doubled a b =>
    refine parts_congr (isAbsolute_slash a _ _) ?_
    rw [segments_append_slash, segments_append_slash, segments_slash]
  | dotted a b => exact (parts_dotted a b).symm
  | ended a ha =>
    refine parts_congr (isAbsolute_append ha _).symm ?_
    rw [segments_append_slash, segments_nil, List.append_nil]

/-- Spellings that changes lead between have the same parts. -/
theorem Respells.same {p q : Path} (h : Respells p q) : p.same q := by
  rw [same_iff]
  induction h with
  | rel p q h => exact h.parts_eq
  | refl p => rfl
  | symm p q _ ih => exact ih.symm
  | trans p q r _ _ ih ih' => exact ih.trans ih'

/-! ### A spelling for each list of parts -/

/-- How a part is written. -/
def Part.text : Part → Text
  | .root => []
  | .here => ['.']
  | .up => ['.', '.']
  | .name s => s

@[simp] theorem text_partOf (s : Text) : (partOf s).text = s := by
  unfold partOf
  split_ifs with h
  · exact h.symm
  · rfl

/-- Segments with a slash behind each. -/
def slashed (segments : List Text) : Text := segments.flatMap (· ++ ['/'])

@[simp] theorem slashed_nil : slashed [] = [] := rfl

@[simp] theorem slashed_cons (s : Text) (segments : List Text) :
    slashed (s :: segments) = s ++ '/' :: slashed segments := by
  simp [slashed]

/-- The spelling in which a slash stands behind each part. -/
def ofParts (parts : List Part) : Path := ⟨slashed (parts.map Part.text)⟩

/-- The segments that have a part wherever they stand. -/
def inner (segments : List Text) : List Text :=
  segments.filter fun s => s ≠ [] ∧ s ≠ ['.']

theorem map_text_innerParts (pieces : List Text) :
    (innerParts (pieces.filter (!·.isEmpty))).map Part.text = inner pieces := by
  rw [innerParts, List.map_map, List.filter_filter]
  refine (List.map_congr_left fun s _ => text_partOf s).trans ?_
  rw [List.map_id', inner]
  refine List.filter_congr fun s _ => ?_
  cases s <;> simp

/-- A text that is not empty, with a slash at its end, is its pieces with a slash behind each. -/
theorem slashed_pieces (a : Text) : slashed (Text.pieces (· == '/') a) = a ++ ['/'] := by
  induction a using cut_induction '/' with
  | piece a ha => rw [Text.pieces, splitAt_of_not_mem ha, slashed_cons, slashed_nil]
  | cut a b ha ih =>
    rw [Text.pieces] at ih ⊢
    rw [splitAt_append_cons_self, splitAt_of_not_mem ha, List.singleton_append, slashed_cons, ih]
    simp

/-- Behind a slash, empty segments and segments `.` may be left out. -/
theorem respells_inner (a : Text) (pieces : List Text) :
    Respells ⟨a ++ '/' :: slashed pieces⟩ ⟨a ++ '/' :: slashed (inner pieces)⟩ := by
  induction pieces generalizing a with
  | nil => exact .refl _
  | cons s pieces ih =>
    by_cases hempty : s = []
    · subst hempty
      exact .trans _ _ _ (.symm _ _ (.rel _ _ (.doubled a (slashed pieces)))) (ih a)
    · by_cases hdot : s = ['.']
      · subst hdot
        exact .trans _ _ _ (.symm _ _ (.rel _ _ (.dotted a (slashed pieces)))) (ih a)
      · have hkeep : inner (s :: pieces) = s :: inner pieces :=
          List.filter_cons_of_pos (decide_eq_true ⟨hempty, hdot⟩)
        have hmove : ∀ r, a ++ '/' :: slashed (s :: r) = (a ++ '/' :: s) ++ '/' :: slashed r := by
          intro r
          simp
        rw [hkeep, hmove, hmove]
        exact ih (a ++ '/' :: s)

/-- The first piece of a path has a part even if it is empty or a `.`; of the others only the inner
segments have one. -/
theorem map_text_parts {a s : Text} {pieces : List Text} (ha : a ≠ [])
    (hpieces : Text.pieces (· == '/') a = s :: pieces) :
    (parts ⟨a⟩).map Part.text = s :: inner pieces := by
  obtain ⟨c, r, rfl⟩ := List.exists_cons_of_ne_nil ha
  have hsegments : segments ⟨c :: r⟩ = (s :: pieces).filter (!·.isEmpty) := by
    rw [segments, hpieces]
  by_cases hc : c = '/'
  · subst hc
    obtain ⟨rfl, -⟩ := List.cons.inj (hpieces.symm.trans (splitAt_cons _ _ r))
    have hdrop : ([] :: pieces).filter (!·.isEmpty) = pieces.filter (!·.isEmpty) := rfl
    rw [parts_of_isAbsolute rfl, hsegments, hdrop, List.map_cons, map_text_innerParts]
    rfl
  · obtain ⟨piece, pieces', hsplit⟩ := exists_splitAt_cons hc r
    obtain ⟨rfl, -⟩ := List.cons.inj (hpieces.symm.trans hsplit)
    have habs : ¬ isAbsolute ⟨c :: r⟩ := by
      rw [isAbsolute_eq_decide]
      simpa using hc
    rw [parts_of_relative habs (hsegments.trans (List.filter_cons_of_pos rfl)), List.map_cons,
      map_text_innerParts]
    split_ifs with hdot
    · rw [hdot]
      rfl
    · rw [text_partOf]

/-- Every path is spelled by its parts. -/
theorem respells_ofParts (p : Path) : Respells p (ofParts p.parts) := by
  obtain ⟨a⟩ := p
  by_cases ha : a = []
  · subst ha
    exact .refl _
  · obtain ⟨s, pieces, hpieces⟩ := List.exists_cons_of_ne_nil (splitAt_ne_nil (· == '/') a)
    have hslashed : s ++ '/' :: slashed pieces = a ++ ['/'] := by
      rw [← slashed_pieces a, Text.pieces, hpieces, slashed_cons]
    have hended : Respells ⟨a⟩ ⟨s ++ '/' :: slashed pieces⟩ := by
      rw [hslashed]
      exact .rel _ _ (.ended a ha)
    rw [ofParts, map_text_parts ha hpieces, slashed_cons]
    exact .trans _ _ _ hended (respells_inner s pieces)

/-- Paths have the same parts exactly when changes lead from one to the other. -/
theorem respells_iff_same {p q : Path} : Respells p q ↔ p.same q := by
  refine ⟨Respells.same, fun h => ?_⟩
  have hp := respells_ofParts p
  rw [same_iff.mp h] at hp
  exact .trans _ _ _ hp (.symm _ _ (respells_ofParts q))

/-! ### Joining -/

/-- What is put below an absolute path is absolute. -/
theorem isAbsolute_join {dir : Path} (h : dir.isAbsolute) (p : Path) : (dir.join p).isAbsolute := by
  have hne : dir.text ≠ [] := by
    rintro htext
    rw [isAbsolute, htext] at h
    cases h
  unfold join
  split_ifs with hp
  · exact hp
  · rw [isAbsolute_append hne]
    exact h
  · rw [isAbsolute_append hne]
    exact h

end Path

end NameTables
