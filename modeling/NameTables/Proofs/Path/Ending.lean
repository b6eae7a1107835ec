import NameTables.Proofs.Path.Spelling

/-!
# What a path ends in

An absolute path ends in a relative one part by part.  The root stands in front only, so a path
that ends in an absolute path has the same parts; and an absolute path has no part for a `.`, so
it ends in no path that begins with one, not even when it was made by joining the two.

## Main definitions

* `Path.BeginsHere` — a relative path whose first segment is `.`.

## Main statements

* `Path.suffix_parts_iff_of_isAbsolute` — ending in an absolute path.
* `Path.parts_join` — the parts of what is put below an absolute path.
* `Path.suffix_parts_join_iff` — when a joined path ends in what was put below.
-/

namespace NameTables

namespace Path

variable {p dir : Path}

/-! ### Ending in an absolute path -/

@[simp] theorem partOf_ne_root (s : Text) : partOf s ≠ .root := by
  unfold partOf
  split_ifs <;> simp

@[simp] theorem partOf_ne_here (s : Text) : partOf s ≠ .here := by
  unfold partOf
  split_ifs <;> simp

theorem root_not_mem_innerParts (segments : List Text) : Part.root ∉ innerParts segments := by
  simp [innerParts]

theorem here_not_mem_innerParts (segments : List Text) : Part.here ∉ innerParts segments := by
  simp [innerParts]

theorem root_not_mem_parts (h : ¬ p.isAbsolute) : Part.root ∉ p.parts := by
  cases hsegments : p.segments with
  | nil => simp [parts, h, hsegments]
  | cons s rest =>
    rw [parts_of_relative h hsegments, List.mem_cons, not_or]
    refine ⟨?_, root_not_mem_innerParts rest⟩
    split_ifs
    · simp
    · exact (partOf_ne_root s).symm

theorem here_not_mem_parts (h : p.isAbsolute) : Part.here ∉ p.parts := by
  rw [parts_of_isAbsolute h, List.mem_cons, not_or]
  exact ⟨by simp, here_not_mem_innerParts p.segments⟩

/-- The root stands in front of all other parts. -/
theorem eq_nil_of_parts_eq {front rest : List Part} (h : p.parts = front ++ .root :: rest) :
    front = [] := by
  have hroot : p.isAbsolute := by
    by_contra hrel
    refine root_not_mem_parts hrel ?_
    rw [h]
    exact List.mem_append_right front List.mem_cons_self
  cases front with
  | nil => rfl
  | cons part front =>
    rw [parts_of_isAbsolute hroot] at h
    obtain ⟨-, hinner⟩ := List.cons.inj h
    refine absurd ?_ (root_not_mem_innerParts p.segments)
    rw [hinner]
    exact List.mem_append_right front List.mem_cons_self

/-- A path ends in an absolute path when it has the same parts. -/
theorem suffix_parts_iff_of_isAbsolute {q : Path} (hq : q.isAbsolute) :
    q.parts <:+ p.parts ↔ p.parts = q.parts := by
  constructor
  · rintro ⟨front, hfront⟩
    rw [parts_of_isAbsolute hq] at hfront
    rw [← hfront, eq_nil_of_parts_eq hfront.symm, parts_of_isAbsolute hq, List.nil_append]
  · intro h
    exact ⟨[], h.symm⟩

/-! ### A relative path that begins with a dot -/

/-- Is the path spelled with a segment `.` in front? -/
def BeginsHere (p : Path) : Prop := p.text = ['.'] ∨ ['.', '/'] <+: p.text

instance : Decidable p.BeginsHere :=
  inferInstanceAs (Decidable (p.text = ['.'] ∨ ['.', '/'] <+: p.text))

/-- The first segment of a relative path is a `.` when the spelling begins with one. -/
theorem exists_segments_cons {a : Text} (ha : a ≠ []) (hrel : ¬ isAbsolute ⟨a⟩) :
    ∃ s rest, segments ⟨a⟩ = s :: rest ∧ (s = ['.'] ↔ BeginsHere ⟨a⟩) := by
  have hpiece : ∀ l : Text, '/' ∉ l → l ≠ [] → segments ⟨l⟩ = [l] := by
    intro l hl hne
    rw [segments, Text.pieces, splitAt_of_not_mem hl, List.filter_cons_of_pos (by simpa using hne),
      List.filter_nil]
  induction a using cut_induction '/' with
  | piece l hl =>
    refine ⟨l, [], hpiece l hl ha, ?_⟩
    constructor
    · exact .inl
    · rintro (h | h)
      · exact h
      · exact absurd (h.subset (List.mem_cons_of_mem _ List.mem_cons_self)) hl
  | cut l r hl _ =>
    have hne : l ≠ [] := by
      rintro rfl
      exact hrel rfl
    refine ⟨l, segments ⟨r⟩, by rw [segments_append_slash, hpiece l hl hne]; rfl, ?_⟩
    constructor
    · rintro rfl
      exact .inr ⟨r, rfl⟩
    · rintro (h | ⟨t, h⟩)
      · have hmem : '/' ∈ ['.'] := by
          rw [← h]
          exact List.mem_append_right l List.mem_cons_self
        exact absurd hmem (by decide)
      · -- both texts are cut at their first slash
        have hcut := takeWhile_append_cons_self hl r
        rw [show l ++ '/' :: r = ['.'] ++ '/' :: t from h.symm] at hcut
        rw [← hcut]
        exact takeWhile_append_cons_self (by decide) t

theorem parts_of_beginsHere (h : p.BeginsHere) : p.parts = .here :: innerParts p.segments := by
  obtain ⟨a⟩ := p
  have ha : a ≠ [] := by
    rintro rfl
    rcases h with h | h
    · cases h
    · exact absurd (List.prefix_nil.mp h) (List.cons_ne_nil _ _)
  have hrel : ¬ isAbsolute ⟨a⟩ := by
    rcases h with rfl | ⟨t, rfl⟩ <;> exact Bool.false_ne_true
  obtain ⟨s, rest, hsegments, hs⟩ := exists_segments_cons ha hrel
  rw [parts_of_relative hrel hsegments, hsegments, if_pos (hs.mpr h), hs.mpr h]
  rfl

theorem parts_of_not_beginsHere (hrel : ¬ p.isAbsolute) (h : ¬ p.BeginsHere) :
    p.parts = innerParts p.segments := by
  obtain ⟨a⟩ := p
  by_cases ha : a = []
  · subst ha
    rfl
  · obtain ⟨s, rest, hsegments, hs⟩ := exists_segments_cons ha hrel
    have hdot : s ≠ ['.'] := fun hdot => h (hs.mp hdot)
    rw [parts_of_relative hrel hsegments, hsegments, if_neg hdot]
    simp [innerParts, hdot]

/-! ### Ending in what was put below -/

theorem innerParts_append (s t : List Text) :
    innerParts (s ++ t) = innerParts s ++ innerParts t := by
  simp [innerParts]

/-- A path put below a directory adds its segments, whether or not a slash was there. -/
theorem segments_join (dir : Path) (hp : ¬ p.isAbsolute) :
    (dir.join p).segments = dir.segments ++ p.segments := by
  obtain ⟨d⟩ := dir
  rw [join, if_neg hp]
  split_ifs with hplain
  · rcases hplain with hempty | hslash
    · obtain rfl : d = [] := List.isEmpty_iff.mp hempty
      rfl
    · obtain ⟨a, rfl⟩ := List.getLast?_eq_some_iff.mp hslash
      rw [List.append_assoc, List.singleton_append, segments_append_slash, segments_append_slash,
        segments_nil, List.append_nil]
  · exact segments_append_slash d p.text

/-- The parts of what is put below an absolute path. -/
theorem parts_join (hdir : dir.isAbsolute) (hp : ¬ p.isAbsolute) :
    (dir.join p).parts = dir.parts ++ innerParts p.segments := by
  rw [parts_of_isAbsolute (isAbsolute_join hdir p), segments_join dir hp, innerParts_append,
    parts_of_isAbsolute hdir, List.cons_append]

/-- An absolute path ends in no path that begins with a `.`. -/
theorem not_suffix_of_beginsHere {q : Path} (hp : p.isAbsolute) (hq : q.BeginsHere) :
    ¬ q.parts <:+ p.parts := by
  intro h
  rw [parts_of_beginsHere hq] at h
  exact here_not_mem_parts hp (h.subset List.mem_cons_self)

/-- A path put below an absolute one is what the joined path ends in, unless it begins with a
`.`. -/
theorem suffix_parts_join_iff (hdir : dir.isAbsolute) (hp : ¬ p.isAbsolute) :
    p.parts <:+ (dir.join p).parts ↔ ¬ p.BeginsHere := by
  constructor
  · intro h hbegins
    exact not_suffix_of_beginsHere (isAbsolute_join hdir p) hbegins h
  · intro hbegins
    rw [parts_join hdir hp, parts_of_not_beginsHere hp hbegins]
    exact List.suffix_append _ _

end Path

end NameTables
