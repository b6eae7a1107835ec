import NameTables.Proofs.Table.Counts

/-!
# Which names a table reports

A table reports the names of its entries and, with each of them, its aliases.  An entry's name is
its own, and an entry has no alias twice.  Still a name is reported twice if its definitions do not
agree: it is given an integer value and is also defined as another entry's name, or it is defined
as the names of two entries.  Neither pass looks at what the other definitions of a name have made
of it, so a redefinition of this kind leaves both readings in the table.

## Main definitions

* `Table.reported` — the names of the entries and their aliases.
* `Table.Agree` — the definitions of a name give it one place in the table.

## Main statements

* `Table.mem_aliases_build_iff` — the aliases of an entry, as pairs of names.
* `Table.nodup_reported_build_iff` — no name is reported twice exactly when the definitions agree.
* `Table.reports_once` — what can be said of all definitions, and when no name is reported twice.
* `Table.reports_twice` — names that are.
-/

namespace NameTables

namespace Table

/-- The names that a table reports: that of each entry, and its aliases. -/
def reported (t : Table) : List Text := t.entries.flatMap fun e => e.name :: e.aliases

/-- The definitions of a name agree on its place: a name that is defined as the stem and the name of
another entry is given no integer value, and is so defined as one entry's name only. -/
def Agree (stem : Text) (definitions : List Definition) : Prop :=
  ∀ target name, (target, name) ∈ aliasPairs stem definitions →
    name ∉ entryNames definitions
      ∧ ∀ target', (target', name) ∈ aliasPairs stem definitions → target' = target

variable {stem : Text} {definitions : List Definition} {e : Entry}

theorem name_mem_entryNames (he : e ∈ (build stem definitions).entries) :
    e.name ∈ entryNames definitions :=
  (mem_entryNames_iff stem).mpr (List.mem_map_of_mem he)

/-- The aliases of an entry are the names that are paired with its name. -/
theorem mem_aliases_build_iff (he : e ∈ (build stem definitions).entries) {a : Text} :
    a ∈ e.aliases ↔ (e.name, a) ∈ aliasPairs stem definitions := by
  rw [aliases_of_mem_build he, List.mem_eraseDups, mem_aliasNames_iff]
  exact (and_iff_right (name_mem_entryNames he)).symm

theorem exists_entry_of_mem_aliasPairs {target name : Text}
    (h : (target, name) ∈ aliasPairs stem definitions) :
    ∃ e ∈ (build stem definitions).entries, e.name = target ∧ name ∈ e.aliases := by
  obtain ⟨e, he, rfl⟩ := List.mem_map.mp ((mem_entryNames_iff stem).mp h.1)
  exact ⟨e, he, rfl, (mem_aliases_build_iff he).mpr h⟩

/-- An entry is reported under each of its names once. -/
theorem nodup_names_of_entry (he : e ∈ (build stem definitions).entries) :
    (e.name :: e.aliases).Nodup := by
  refine List.nodup_cons.mpr ⟨fun hself => ?_, ?_⟩
  · obtain ⟨-, hne, -⟩ := (mem_aliases_build_iff he).mp hself
    exact hne rfl
  · rw [aliases_of_mem_build he]
    exact nodup_eraseDups _

/-- Where the definitions agree, two entries share no name. -/
theorem Agree.disjoint (h : Agree stem definitions) {e' : Entry}
    (he : e ∈ (build stem definitions).entries) (he' : e' ∈ (build stem definitions).entries)
    (hname : e.name ≠ e'.name) : List.Disjoint (e.name :: e.aliases) (e'.name :: e'.aliases) := by
  rw [List.disjoint_left]
  intro name hmem hmem'
  rcases List.mem_cons.mp hmem with hown | halias <;>
    rcases List.mem_cons.mp hmem' with hown' | halias'
  · exact hname (hown.symm.trans hown')
  · exact (h _ _ ((mem_aliases_build_iff he').mp halias')).1 (hown ▸ name_mem_entryNames he)
  · exact (h _ _ ((mem_aliases_build_iff he).mp halias)).1 (hown' ▸ name_mem_entryNames he')
  · have hsame := (h _ _ ((mem_aliases_build_iff he).mp halias)).2 _
      ((mem_aliases_build_iff he').mp halias')
    exact hname hsame.symm

/-- No name is reported twice exactly when the definitions of each name agree. -/
theorem nodup_reported_build_iff (stem : Text) (definitions : List Definition) :
    (build stem definitions).reported.Nodup ↔ Agree stem definitions := by
  rw [reported, List.nodup_flatMap]
  constructor
  · rintro ⟨-, hdisjoint⟩
    have hapart : ∀ e ∈ (build stem definitions).entries,
        ∀ e' ∈ (build stem definitions).entries, e.name ≠ e'.name →
          List.Disjoint (e.name :: e.aliases) (e'.name :: e'.aliases) := by
      intro e he e' he' hname
      have hsymm : Std.Symm (Function.onFun List.Disjoint fun e : Entry => e.name :: e.aliases) :=
        ⟨fun _ _ h => List.Disjoint.symm h⟩
      exact hdisjoint.forall he he' fun hsame => hname (congrArg Entry.name hsame)
    intro target name hpair
    obtain ⟨e, he, rfl, halias⟩ := exists_entry_of_mem_aliasPairs hpair
    refine ⟨fun hentry => ?_, fun target' hpair' => ?_⟩
    · obtain ⟨e', he', rfl⟩ := List.mem_map.mp ((mem_entryNames_iff stem).mp hentry)
      exact hapart e he e' he' (Ne.symm hpair.2.1) (List.mem_cons_of_mem _ halias)
        List.mem_cons_self
    · obtain ⟨e', he', rfl, halias'⟩ := exists_entry_of_mem_aliasPairs hpair'
      by_contra hname
      exact hapart e' he' e he hname (List.mem_cons_of_mem _ halias')
        (List.mem_cons_of_mem _ halias)
  · intro hagree
    refine ⟨fun e he => nodup_names_of_entry he, ?_⟩
    have hnames := List.pairwise_map.mp (nodup_names_build stem definitions)
    exact hnames.imp_of_mem fun he he' hname => hagree.disjoint he he' hname

/-- **How often a name is reported.**  The names of the entries are told apart, and so are the names
of one entry.  No name at all is reported twice exactly when a name that is defined as the stem and
the name of another entry is given no integer value and is so defined as one entry's name only. -/
theorem reports_once (stem : Text) (definitions : List Definition) :
    let t := build stem definitions
    (t.entries.map Entry.name).Nodup
      ∧ (∀ e ∈ t.entries, (e.name :: e.aliases).Nodup)
      ∧ (t.reported.Nodup ↔ Agree stem definitions) :=
  ⟨nodup_names_build stem definitions, fun _ he => nodup_names_of_entry he,
    nodup_reported_build_iff stem definitions⟩

/-- A name that is given a value again, and an alias that is defined twice as the same. -/
theorem reports_once_at_redefinition :
    let definitions : List Definition := [⟨"A".toList, "1".toList⟩, ⟨"B".toList, "K_A".toList⟩,
      ⟨"A".toList, "2".toList⟩, ⟨"B".toList, "K_A".toList⟩]
    let a : Entry := ⟨"A".toList, 2, "2".toList, ["B".toList]⟩
    a ∈ (build "K_".toList definitions).entries ∧ (a.name :: a.aliases).Nodup
      ∧ Agree "K_".toList definitions := by
  intro definitions a
  obtain ⟨-, hentries, hagree⟩ := reports_once "K_".toList definitions
  have ha : a ∈ (build "K_".toList definitions).entries := by decide
  exact ⟨ha, hentries a ha, hagree.mp (by decide)⟩

/-- An alias that is given an integer value stays an alias beside its own entry, and an alias that
is defined as another entry's name stays with the first one too. -/
theorem reports_twice :
    let valued : List Definition := [⟨"A".toList, "1".toList⟩, ⟨"B".toList, "A".toList⟩,
      ⟨"B".toList, "2".toList⟩]
    let moved : List Definition := [⟨"A".toList, "1".toList⟩, ⟨"B".toList, "2".toList⟩,
      ⟨"C".toList, "A".toList⟩, ⟨"C".toList, "B".toList⟩]
    (build [] valued).reported = ["A".toList, "B".toList, "B".toList]
      ∧ (build [] moved).reported = ["A".toList, "C".toList, "B".toList, "C".toList]
      ∧ ¬ (build [] valued).reported.Nodup ∧ ¬ (build [] moved).reported.Nodup := by
  decide

end Table

end NameTables
