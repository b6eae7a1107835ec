import NameTables.Rule

/-!
# The paths of a dependency rule

The paths of a rule are its absolute words, and the path that is told for a header is one of them
that ends in the header.  The path at the usual place has the first say.  Only if it does not end in
the header, or if there is none, the others are asked in the order of the rule.  So there is one to
tell exactly when some path ends so; otherwise the rule is at fault.

## Main definitions

* `Rule.Tells` — the path that is told for a header, by the two places it may come from.
* `Rule.Blames` — what is found wrong with a rule that tells no path.

## Main statements

* `Rule.mem_paths_ofText_iff` — the paths are the absolute words.
* `Rule.headerPath_eq_ok_iff`, `Rule.headerPath_eq_error_iff` — what is told, or found wrong.
* `Rule.exists_headerPath_iff` — when a path is told.
-/

namespace NameTables

theorem Path.endsWith_iff {p q : Path} : p.endsWith q ↔ q.parts <:+ p.parts :=
  List.isSuffixOf_iff_suffix

namespace Rule

variable {r : Rule} {paths : List Path} {header s : Text} {p q : Path} {failure : Failure}

theorem mem_paths_ofText_iff :
    p ∈ (ofText s).paths ↔ p.text ∈ tokens s ∧ p.isAbsolute := by
  rw [ofText, List.mem_filter, List.mem_map]
  constructor
  · rintro ⟨⟨token, htoken, rfl⟩, hroot⟩
    exact ⟨htoken, hroot⟩
  · rintro ⟨htoken, hroot⟩
    exact ⟨⟨p.text, htoken, rfl⟩, hroot⟩

/-- `Tells paths header p`: among the paths, `p` is the one for the header. -/
inductive Tells (paths : List Path) (header : Path) : Path → Prop
  /-- The path at the usual place ends in the header. -/
  | usual {p : Path} (hp : paths[2]? = some p) (hends : header.parts <:+ p.parts) :
      Tells paths header p
  /-- No path there does, and this is the first of all that does. -/
  | first {p : Path} {front rest : List Path}
      (husual : ∀ held, paths[2]? = some held → ¬ header.parts <:+ held.parts)
      (hpaths : paths = front ++ p :: rest) (hfront : ∀ q ∈ front, ¬ header.parts <:+ q.parts)
      (hends : header.parts <:+ p.parts) : Tells paths header p

/-- `Blames paths header failure`: what is wrong with paths of which none ends in the header. -/
inductive Blames (paths : List Path) (header : Text) : Failure → Prop
  /-- Another path stands at the usual place. -/
  | held {held : Path} (hheld : paths[2]? = some held) :
      Blames paths header (.malformedRule (.noMatch header held))
  /-- The paths do not reach the usual place. -/
  | short (hshort : paths.length < 3) :
      Blames paths header (.malformedRule (.tooFew paths.length))

/-! ### What is told -/

theorem Tells.mem_and_suffix {header : Path} (h : Tells paths header p) :
    p ∈ paths ∧ header.parts <:+ p.parts := by
  cases h with
  | usual hp hends => exact ⟨List.mem_of_getElem? hp, hends⟩
  | first _ hpaths _ hends =>
    rw [hpaths]
    exact ⟨List.mem_append_right _ List.mem_cons_self, hends⟩

/-- The path at the usual place has the first say. -/
theorem headerPath_of_usual (hp : r.paths[2]? = some p) (hends : Path.parts ⟨header⟩ <:+ p.parts) :
    r.headerPath header = .ok p := by
  have husual : r.paths[usualPosition]?.filter (·.endsWith ⟨header⟩) = some p :=
    Option.filter_eq_some_iff.mpr ⟨hp, Path.endsWith_iff.mpr hends⟩
  simp only [headerPath, husual]

/-- If it does not end in the header, the first path that does is told. -/
theorem headerPath_of_not_usual
    (husual : ∀ held, r.paths[2]? = some held → ¬ Path.parts ⟨header⟩ <:+ held.parts) :
    r.headerPath header = .ok p ↔ r.paths.find? (·.endsWith ⟨header⟩) = some p := by
  have hnone : r.paths[usualPosition]?.filter (·.endsWith ⟨header⟩) = none :=
    Option.filter_eq_none_iff.mpr fun held hheld hends =>
      husual held hheld (Path.endsWith_iff.mp hends)
  cases hfirst : r.paths.find? (·.endsWith ⟨header⟩) <;> simp [headerPath, hnone, hfirst]

theorem find?_endsWith_eq_some_iff :
    paths.find? (·.endsWith q) = some p
      ↔ q.parts <:+ p.parts ∧ ∃ front rest, paths = front ++ p :: rest
          ∧ ∀ p' ∈ front, ¬ q.parts <:+ p'.parts := by
  simp [List.find?_eq_some_iff_append, ← Path.endsWith_iff]

/-- What is told for a header. -/
theorem headerPath_eq_ok_iff : r.headerPath header = .ok p ↔ Tells r.paths ⟨header⟩ p := by
  by_cases husual : ∃ held, r.paths[2]? = some held ∧ Path.parts ⟨header⟩ <:+ held.parts
  · obtain ⟨held, hheld, hends⟩ := husual
    rw [headerPath_of_usual hheld hends]
    constructor
    · intro h
      cases h
      exact .usual hheld hends
    · intro h
      cases h with
      | usual hp _ => rw [Option.some.inj (hheld.symm.trans hp)]
      | first hnot _ _ _ => exact absurd hends (hnot held hheld)
  · have hnot : ∀ held, r.paths[2]? = some held → ¬ Path.parts ⟨header⟩ <:+ held.parts :=
      fun held hheld hends => husual ⟨held, hheld, hends⟩
    rw [headerPath_of_not_usual hnot, find?_endsWith_eq_some_iff]
    constructor
    · rintro ⟨hends, front, rest, hpaths, hfront⟩
      exact .first hnot hpaths hfront hends
    · intro h
      cases h with
      | usual hp hends => exact absurd hends (hnot p hp)
      | first _ hpaths hfront hends => exact ⟨hends, _, _, hpaths, hfront⟩

/-- What is told for a header is a path of the rule that ends in it. -/
theorem headerPath_eq_ok (h : r.headerPath header = .ok p) :
    p ∈ r.paths ∧ p.endsWith ⟨header⟩ := by
  obtain ⟨hmem, hends⟩ := (headerPath_eq_ok_iff.mp h).mem_and_suffix
  exact ⟨hmem, Path.endsWith_iff.mpr hends⟩

/-- A path is told exactly when some path of the rule ends in the header. -/
theorem exists_headerPath_iff :
    (∃ p, r.headerPath header = .ok p) ↔ ∃ p ∈ r.paths, p.endsWith ⟨header⟩ := by
  constructor
  · rintro ⟨p, h⟩
    exact ⟨p, headerPath_eq_ok h⟩
  · intro hends
    by_cases husual : ∃ held, r.paths[2]? = some held ∧ Path.parts ⟨header⟩ <:+ held.parts
    · obtain ⟨held, hheld, hends⟩ := husual
      exact ⟨held, headerPath_of_usual hheld hends⟩
    · obtain ⟨first, hfirst⟩ := Option.isSome_iff_exists.mp (List.find?_isSome.mpr hends)
      exact ⟨first, (headerPath_of_not_usual fun held hheld hends =>
        husual ⟨held, hheld, hends⟩).mpr hfirst⟩

/-! ### What is found wrong -/

/-- One thing is wrong with such a rule. -/
theorem Blames.unique {failure' : Failure} (h : Blames paths header failure)
    (h' : Blames paths header failure') : failure = failure' := by
  have hapart : ∀ held, paths[2]? = some held → ¬ paths.length < 3 := by
    intro held hheld hshort
    obtain ⟨hlong, -⟩ := List.getElem?_eq_some_iff.mp hheld
    omega
  cases h with
  | held hheld =>
    cases h' with
    | held hheld' => rw [Option.some.inj (hheld.symm.trans hheld')]
    | short hshort => exact absurd hshort (hapart _ hheld)
  | short hshort =>
    cases h' with
    | held hheld => exact absurd hshort (hapart _ hheld)
    | short _ => rfl

/-- A rule of which no path ends in the header tells none. -/
theorem exists_headerPath_eq_error (h : ∀ p ∈ r.paths, ¬ p.endsWith ⟨header⟩) :
    ∃ failure, r.headerPath header = .error failure ∧ Blames r.paths header failure := by
  have hfirst : r.paths.find? (·.endsWith ⟨header⟩) = none := List.find?_eq_none.mpr h
  have husual : r.paths[usualPosition]?.filter (·.endsWith ⟨header⟩) = none :=
    Option.filter_eq_none_iff.mpr fun held hheld => h held (List.mem_of_getElem? hheld)
  cases hheld : r.paths[usualPosition]? with
  | some held =>
    rw [hheld] at husual
    exact ⟨_, by simp only [headerPath, hheld, husual, hfirst], .held hheld⟩
  | none =>
    exact ⟨_, by simp only [headerPath, hheld, hfirst, Option.filter_none],
      .short (Nat.lt_succ_of_le (List.getElem?_eq_none_iff.mp hheld))⟩

/-- What is found wrong with a rule, and when. -/
theorem headerPath_eq_error_iff :
    r.headerPath header = .error failure
      ↔ (∀ p ∈ r.paths, ¬ p.endsWith ⟨header⟩) ∧ Blames r.paths header failure := by
  constructor
  · intro h
    have hnone : ∀ p ∈ r.paths, ¬ p.endsWith ⟨header⟩ := by
      intro p hp hends
      obtain ⟨told, htold⟩ := exists_headerPath_iff.mpr ⟨p, hp, hends⟩
      rw [h] at htold
      cases htold
    obtain ⟨failure', h', hblames⟩ := exists_headerPath_eq_error hnone
    cases h.symm.trans h'
    exact ⟨hnone, hblames⟩
  · rintro ⟨hnone, hblames⟩
    obtain ⟨failure', h', hblames'⟩ := exists_headerPath_eq_error hnone
    rw [h', hblames.unique hblames']

/-- What is wrong otherwise is the rule, none of whose paths ends in the header. -/
theorem headerPath_eq_error (h : r.headerPath header = .error failure) :
    (∃ fault, failure = .malformedRule fault) ∧ ∀ p ∈ r.paths, ¬ p.endsWith ⟨header⟩ := by
  obtain ⟨hnone, hblames⟩ := headerPath_eq_error_iff.mp h
  refine ⟨?_, hnone⟩
  cases hblames with
  | held _ => exact ⟨_, rfl⟩
  | short _ => exact ⟨_, rfl⟩

/-- The message names what is wrong: the path that stands at the usual place, or how many paths
there are. -/
theorem Blames.named (h : Blames paths header failure) :
    (∃ held, paths[2]? = some held ∧ held.text.quoted <:+: failure.message)
      ∨ paths.length < 3 ∧ Text.ofNat paths.length <:+: failure.message := by
  cases h with
  | @held held hheld =>
    exact .inl ⟨held, hheld, (List.infix_append _ _ _).trans (List.suffix_append _ _).isInfix⟩
  | short hshort =>
    exact .inr ⟨hshort, (List.suffix_append _ _).isInfix.trans (List.suffix_append _ _).isInfix⟩

end Rule

end NameTables
