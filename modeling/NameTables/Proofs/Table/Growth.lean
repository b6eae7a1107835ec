import NameTables.Proofs.Table.Contents

/-!
# Tables grow at the end

Appending definitions to a header keeps what its table had in place.  New names come behind the
old ones and new aliases behind those that an entry has; only a new definition of a name changes
its value.  What was left over stays so unless its target is now defined for the first time.

## Main definitions

* `Table.FirstDefinedIn` — a name is given an integer value for the first time.

## Main statements

* `Table.names_prefix_build_append`, `Table.aliases_prefix_of_mem_build_append`,
  `Table.eq_of_mem_build_append`, `Table.unresolved_build_append` — names, aliases, values and
  what is left over.
* `Table.build_append` — all of it together.
-/

namespace NameTables

namespace Table

/-- The name is given an integer value in `added`, and in nothing `before` it. -/
def FirstDefinedIn (before added : List Definition) (name : Text) : Prop :=
  (∃ d ∈ literals added, d.name = name) ∧ ¬ ∃ d ∈ literals before, d.name = name

instance (before added : List Definition) (name : Text) :
    Decidable (FirstDefinedIn before added name) :=
  inferInstanceAs (Decidable (_ ∧ _))

variable {stem : Text} {a b : List Definition} {e e' : Entry}

/-- New names come behind the old ones. -/
theorem names_prefix_build_append (stem : Text) (a b : List Definition) :
    (build stem a).entries.map Entry.name <+: (build stem (a ++ b)).entries.map Entry.name := by
  rw [names_build, names_build, literals_append, List.map_append]
  exact eraseDups_prefix_append _ _

/-- New aliases come behind those that an entry has. -/
theorem aliases_prefix_of_mem_build_append (he : e ∈ (build stem a).entries)
    (he' : e' ∈ (build stem (a ++ b)).entries) (hname : e'.name = e.name) :
    e.aliases <+: e'.aliases := by
  rw [aliases_of_mem_build he, aliases_of_mem_build he', hname, candidates_append,
    aliasNames_append]
  exact eraseDups_prefix_append _ _

/-- A name that is not defined again keeps its value and its literal. -/
theorem eq_of_mem_build_append (he : e ∈ (build stem a).entries)
    (he' : e' ∈ (build stem (a ++ b)).entries) (hname : e'.name = e.name)
    (hb : ¬ ∃ d ∈ literals b, d.name = e.name) :
    e'.value = e.value ∧ e'.literal = e.literal := by
  obtain ⟨d, hlast, hliteral, hvalue⟩ := exists_lastLiteral?_of_mem_build he
  obtain ⟨d', hlast', hliteral', hvalue'⟩ := exists_lastLiteral?_of_mem_build he'
  -- the definition that gives the value is the same
  have hsame : d' = d := by
    rw [hname, lastLiteral?_append, lastLiteral?_eq_none_iff.mpr hb, Option.none_or,
      hlast] at hlast'
    exact (Option.some.inj hlast').symm
  subst hsame
  refine ⟨?_, by rw [hliteral', hliteral]⟩
  rw [hvalue] at hvalue'
  exact (Option.some.inj hvalue').symm

/-- A definition refers to an entry of the longer table if it did to one of the shorter, or if its
target is defined for the first time. -/
theorem refers_build_append_iff {d : Definition} :
    Refers stem (build stem (a ++ b)) d ↔ Refers stem (build stem a) d
      ∨ ∃ e ∈ (build stem (a ++ b)).entries, d.value = stem ++ e.name ∧ FirstDefinedIn a b e.name := by
  constructor
  · rintro ⟨e, he, hvalue⟩
    by_cases hold : ∃ x ∈ literals a, x.name = e.name
    · obtain ⟨x, hx, hname⟩ := hold
      left
      rw [refers_build_iff]
      exact ⟨x, hx, by rw [hvalue, hname]⟩
    · right
      refine ⟨e, he, hvalue, ?_, hold⟩
      obtain ⟨x, hx, hname⟩ := (exists_mem_build_iff stem (a ++ b) (· = e.name)).mp ⟨e, he, rfl⟩
      rw [literals_append] at hx
      rcases List.mem_append.mp hx with hx | hx
      · exact absurd ⟨x, hx, hname⟩ hold
      · exact ⟨x, hx, hname⟩
  · rintro (h | ⟨e, he, hvalue, -⟩)
    · rw [refers_build_iff] at h ⊢
      obtain ⟨x, hx, hvalue⟩ := h
      rw [literals_append]
      exact ⟨x, List.mem_append_left _ hx, hvalue⟩
    · exact ⟨e, he, hvalue⟩

/-- What was left over stays so unless its target is defined for the first time; behind it comes
what is new and refers to no entry. -/
theorem unresolved_build_append (stem : Text) (a b : List Definition) :
    (build stem (a ++ b)).unresolved
      = ((build stem a).unresolved.filter fun d =>
            ¬ ∃ e ∈ (build stem (a ++ b)).entries,
                d.value = stem ++ e.name ∧ FirstDefinedIn a b e.name)
        ++ (candidates b).filter fun d => ¬ Refers stem (build stem (a ++ b)) d := by
  rw [unresolved_build, unresolved_build, candidates_append, List.filter_append,
    List.filter_filter]
  congr 1
  refine List.filter_congr fun d _ => ?_
  rw [← Bool.decide_and, decide_eq_decide, refers_build_append_iff, not_or, and_comm]

/-- **Appending to a header never reorders what was there.**  The names of its table stay where
they are, in front of the new ones, and each is there once.  Every entry keeps its aliases in front
of the new ones, and its value and literal unless the name is defined again.  What was left over
stays so unless its target is defined for the first time, and behind it comes what is new and
refers to no entry. -/
theorem build_append (stem : Text) (a b : List Definition) :
    let t := build stem a
    let u := build stem (a ++ b)
    t.entries.map Entry.name <+: u.entries.map Entry.name
      ∧ (u.entries.map Entry.name).Nodup
      ∧ (∀ e ∈ t.entries, ∀ e' ∈ u.entries, e'.name = e.name →
          e.aliases <+: e'.aliases
            ∧ (e'.value ≠ e.value ∨ e'.literal ≠ e.literal →
                ∃ d ∈ literals b, d.name = e.name))
      ∧ u.unresolved
          = (t.unresolved.filter fun d =>
              ¬ ∃ e ∈ u.entries, d.value = stem ++ e.name ∧ FirstDefinedIn a b e.name)
            ++ (candidates b).filter fun d => ¬ ∃ e ∈ u.entries, d.value = stem ++ e.name := by
  intro t u
  refine ⟨names_prefix_build_append stem a b, nodup_names_build stem _, ?_,
    unresolved_build_append stem a b⟩
  intro e he e' he' hname
  refine ⟨aliases_prefix_of_mem_build_append he he' hname, fun hchanged => ?_⟩
  by_contra hb
  obtain ⟨hvalue, hliteral⟩ := eq_of_mem_build_append he he' hname hb
  rcases hchanged with h | h
  · exact h hvalue
  · exact h hliteral

/-- A name defined again, with an alias added to it, and the late target of an earlier alias. -/
theorem build_append_at_late_target :
    let a : List Definition := [⟨"A".toList, "1".toList⟩, ⟨"B".toList, "K_A".toList⟩,
      ⟨"C".toList, "K_D".toList⟩, ⟨"E".toList, "K_Z".toList⟩]
    let b : List Definition := [⟨"A".toList, "0x2".toList⟩, ⟨"D".toList, "4".toList⟩,
      ⟨"F".toList, "K_A".toList⟩, ⟨"G".toList, "K_Y".toList⟩]
    let u := build "K_".toList (a ++ b)
    let old : Entry := ⟨"A".toList, 1, "1".toList, ["B".toList]⟩
    let new : Entry := ⟨"A".toList, 2, "0x2".toList, ["B".toList, "F".toList]⟩
    (old ∈ (build "K_".toList a).entries ∧ new ∈ u.entries ∧ new.name = old.name)
      ∧ (old.aliases <+: new.aliases ∧ ∃ d ∈ literals b, d.name = old.name)
      ∧ u.unresolved = [⟨"E".toList, "K_Z".toList⟩, ⟨"G".toList, "K_Y".toList⟩] := by
  intro a b u old new
  obtain ⟨-, -, hentries, hunresolved⟩ := build_append "K_".toList a b
  have hold : old ∈ (build "K_".toList a).entries := by decide
  have hnew : new ∈ u.entries := by decide
  obtain ⟨haliases, hvalue⟩ := hentries old hold new hnew rfl
  refine ⟨⟨hold, hnew, rfl⟩, ⟨haliases, hvalue (.inl (by decide))⟩, ?_⟩
  rw [hunresolved]
  decide

end Table

end NameTables
