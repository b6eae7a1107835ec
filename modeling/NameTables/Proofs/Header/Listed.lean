import NameTables.Proofs.Header.Rule
import NameTables.Proofs.Header.Layout
import NameTables.Proofs.Path.Ending
import NameTables.Resolver

/-!
# Headers that a rule lists

A compiler that finds a header under a directory lists it as the directory joined with the name
between the angle brackets.  Doubled slashes, inner dots and segments `..` of the name come out the
same in the listed path and in the name itself, so the listed path ends in it.  A `.` that the name
begins with does not: it is an inner segment of the listed path and has no part there, while it is
the first part of the name.  Such a name is accepted, listed, and never told.

## Main statements

* `Rule.headerPath_of_listed` — which listed headers are told.
* `Rule.headerPath_of_listed_dotted` — one that is not.
-/

namespace NameTables

namespace Rule

/-- **A listed header is told unless its name begins with a `.` segment.**  A header that begins so
is told by no rule; any other relative header is told by every rule that lists it below some
absolute directory. -/
theorem headerPath_of_listed {header : Text} (hrel : ¬ Path.isAbsolute ⟨header⟩) :
    (Path.BeginsHere ⟨header⟩ → ∀ s p, (ofText s).headerPath header ≠ .ok p)
      ∧ (¬ Path.BeginsHere ⟨header⟩ → ∀ (dir : Path) (s : Text), dir.isAbsolute →
        (dir.join ⟨header⟩).text ∈ tokens s → ∃ p, (ofText s).headerPath header = .ok p) := by
  constructor
  · intro hbegins s p h
    obtain ⟨hmem, hends⟩ := headerPath_eq_ok h
    have hroot : p.isAbsolute := (mem_paths_ofText_iff.mp hmem).2
    exact Path.not_suffix_of_beginsHere hroot hbegins (Path.endsWith_iff.mp hends)
  · intro hbegins dir s hdir hlisted
    have hmem : dir.join ⟨header⟩ ∈ (ofText s).paths :=
      mem_paths_ofText_iff.mpr ⟨hlisted, Path.isAbsolute_join hdir _⟩
    have hends : Path.parts ⟨header⟩ <:+ (dir.join ⟨header⟩).parts :=
      (Path.suffix_parts_join_iff hdir hrel).mpr hbegins
    exact exists_headerPath_iff.mpr ⟨_, hmem, Path.endsWith_iff.mpr hends⟩

/-- A name with a segment `..`, a doubled slash, an inner dot and a name that begins with a dot,
listed below a directory that ends in a slash. -/
theorem headerPath_of_listed_of_crooked :
    let header : Text := "../a//./.k.h".toList
    let s : Text := "u.o: /u.c \\\n /usr/include/../a//./.k.h\n".toList
    ¬ Path.isAbsolute ⟨header⟩ ∧ ¬ Path.BeginsHere ⟨header⟩
      ∧ (Path.join ⟨"/usr/include/".toList⟩ ⟨header⟩).text ∈ tokens s
      ∧ (∃ p, (ofText s).headerPath header = .ok p)
      ∧ ∀ p, (ofText s).headerPath "./k.h".toList ≠ .ok p := by
  intro header s
  have hrel : ¬ Path.isAbsolute ⟨header⟩ := by decide
  have hbegins : ¬ Path.BeginsHere ⟨header⟩ := by decide
  have hlisted : (Path.join ⟨"/usr/include/".toList⟩ ⟨header⟩).text ∈ tokens s := by decide
  have hdotted : ¬ Path.isAbsolute ⟨"./k.h".toList⟩ := by decide
  exact ⟨hrel, hbegins, hlisted,
    (headerPath_of_listed hrel).2 hbegins ⟨"/usr/include/".toList⟩ s (by decide) hlisted,
    (headerPath_of_listed hdotted).1 (by decide) s⟩

/-- A name that can be included, with a `.` in front, is not told by the rule that lists it below an
absolute directory. -/
theorem headerPath_of_listed_dotted :
    let header : Text := "./k.h".toList
    let dir : Path := ⟨"/opt/inc".toList⟩
    let s : Text := "u.o: /tmp/u.c /usr/include/stdc-predef.h /opt/inc/./k.h\n".toList
    Resolver.isIncludeName header ∧ ¬ Path.isAbsolute ⟨header⟩ ∧ IsToken header
      ∧ dir.isAbsolute ∧ IsToken dir.text ∧ (dir.join ⟨header⟩).text ∈ tokens s
      ∧ (ofText s).headerPath header
        = .error (.malformedRule (.noMatch header ⟨"/opt/inc/./k.h".toList⟩)) := by
  decide

end Rule

end NameTables
