import NameTables.Proofs.Header.Rule
import NameTables.Proofs.Path.Ending

/-!
# Which path is told for a header

What stands behind the usual place matters only to a rule that tells nothing else: a rule that
reaches that far keeps its answer when it grows.

## Main statements

* `Rule.Tells.grow` — a rule that reaches the usual place keeps its answer when it grows.
* `Rule.headerPath_choice` — what is told or found wrong in the rule that a text is read as.
-/

namespace NameTables

namespace Rule

variable {paths paths' : List Path} {header p : Path}

/-- A rule that reaches the usual place keeps its answer when it grows. -/
theorem Tells.grow (h : Tells paths header p) (hlong : 3 ≤ paths.length)
    (hgrown : paths <+: paths') : Tells paths' header p := by
  obtain ⟨more, rfl⟩ := hgrown
  have husual : (paths ++ more)[2]? = paths[2]? := List.getElem?_append_left hlong
  cases h with
  | usual hp hends => exact .usual (husual.trans hp) hends
  | @first front rest hnot hpaths hfront hends =>
    have hmore : paths ++ more = front ++ p :: (rest ++ more) := by
      rw [hpaths, List.append_assoc, List.cons_append]
    exact .first (fun held hheld => hnot held (husual.symm.trans hheld)) hmore hfront hends

/-- **Which path is told.**  A path is told exactly when some path of the rule ends in the header,
part by part, which for an absolute header is to have the same parts.  It is the third if that one
does, and else the first that does.  Otherwise the third is named, or how many there are.  A rule
with three paths keeps its answer when more are put behind them. -/
theorem headerPath_choice (s header : Text) :
    let paths := (ofText s).paths
    (∀ p, (ofText s).headerPath header = .ok p ↔ Tells paths ⟨header⟩ p)
      ∧ ((∃ p, (ofText s).headerPath header = .ok p)
        ↔ ∃ p ∈ paths, Path.parts ⟨header⟩ <:+ p.parts)
      ∧ (Path.isAbsolute ⟨header⟩ →
        ∀ p : Path, Path.parts ⟨header⟩ <:+ p.parts ↔ p.parts = Path.parts ⟨header⟩)
      ∧ (∀ failure, (ofText s).headerPath header = .error failure
        ↔ (∀ p ∈ paths, ¬ Path.parts ⟨header⟩ <:+ p.parts) ∧ Blames paths header failure)
      ∧ (∀ failure, (ofText s).headerPath header = .error failure →
        (∃ held, paths[2]? = some held ∧ held.text.quoted <:+: failure.message)
          ∨ paths.length < 3 ∧ Text.ofNat paths.length <:+: failure.message)
      ∧ ∀ (t : Text) (p : Path), 3 ≤ paths.length → paths <+: (ofText t).paths →
        (ofText s).headerPath header = .ok p → (ofText t).headerPath header = .ok p := by
  intro paths
  refine ⟨fun p => headerPath_eq_ok_iff, ?_, fun habs p => Path.suffix_parts_iff_of_isAbsolute habs,
    fun failure => ?_, fun failure h => ?_, fun t p hlong hgrown h => ?_⟩
  · simp only [exists_headerPath_iff, Path.endsWith_iff]
    rfl
  · simp only [headerPath_eq_error_iff, Path.endsWith_iff]
    rfl
  · exact (headerPath_eq_error_iff.mp h).2.named
  · exact headerPath_eq_ok_iff.mpr ((headerPath_eq_ok_iff.mp h).grow hlong hgrown)

/-- A name whose text ends in the header stands third, with a path of the header in front of it and
one behind, and a further one is put behind them; an absolute header in another spelling; and a
header that is not there. -/
theorem headerPath_choice_of_shifted :
    let s : Text := "u.o: /u.c //i/./k.h /i/xk.h /j/k.h\n".toList
    let t : Text := "u.o: /u.c //i/./k.h /i/xk.h /j/k.h \\\n /l/k.h\n".toList
    let spelled : Path := ⟨"//i/./k.h".toList⟩
    (ofText s).headerPath "k.h".toList = .ok spelled
      ∧ (ofText t).headerPath "k.h".toList = .ok spelled
      ∧ spelled.parts = Path.parts ⟨"/i/k.h".toList⟩
      ∧ ∃ failure, (ofText s).headerPath ".h".toList = .error failure
        ∧ ((∃ held, (ofText s).paths[2]? = some held ∧ held.text.quoted <:+: failure.message)
          ∨ (ofText s).paths.length < 3
            ∧ Text.ofNat (ofText s).paths.length <:+: failure.message) := by
  intro s t spelled
  obtain ⟨hok, -, -, -, -, hgrow⟩ := headerPath_choice s "k.h".toList
  obtain ⟨-, -, habs, -⟩ := headerPath_choice s "/i/k.h".toList
  obtain ⟨-, -, -, herror, hnamed, -⟩ := headerPath_choice s ".h".toList
  have hthird : (ofText s).paths[2]? = some ⟨"/i/xk.h".toList⟩ := by decide
  have htold : (ofText s).headerPath "k.h".toList = .ok spelled := by
    have hpaths : (ofText s).paths
        = [⟨"/u.c".toList⟩] ++ spelled :: [⟨"/i/xk.h".toList⟩, ⟨"/j/k.h".toList⟩] := by decide
    refine (hok spelled).mpr (.first (fun held hheld => ?_) hpaths (by decide) (by decide))
    rw [← Option.some.inj (hthird.symm.trans hheld)]
    decide
  have hblamed := (herror _).mpr ⟨by decide, .held hthird⟩
  exact ⟨htold, hgrow t spelled (by decide) (by decide) htold, (habs (by decide) spelled).mp
    (by decide), _, hblamed, hnamed _ hblamed⟩

end Rule

end NameTables
