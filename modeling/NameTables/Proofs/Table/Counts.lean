import Mathlib.Data.Set.Card
import NameTables.Proofs.Table.Contents

/-!
# What the counts of a table count

The names in a table are told apart, and so are the aliases of an entry.  So the numbers that a
table reports are numbers of things in the header: the names that are given an integer value, the
pairs of such a name and another that is defined as it, and the definitions left over.

## Main definitions

* `Table.entryNames` — the names that are given an integer value.
* `Table.aliasPairs` — the pairs of an entry's name and a name defined as it.

## Main statements

* `Table.encard_entryNames`, `Table.encard_aliasPairs`, `Table.length_unresolved_build` — the
  counts of a table.
-/

namespace NameTables

/-- A list that tells its members apart is as long as the set of its members is large. -/
theorem encard_eq_length {α : Type} {l : List α} (hl : l.Nodup) {s : Set α}
    (hs : ∀ x, x ∈ s ↔ x ∈ l) : s.encard = l.length := by
  classical
  have hset : s = l.toFinset := by
    ext x
    simp [hs]
  rw [hset, Set.encard_coe_eq_coe_finsetCard, List.toFinset_card_of_nodup hl]

theorem total_eq_sum (l : List Nat) : total l = l.sum := by
  induction l with
  | nil => rfl
  | cons n l ih => rw [total_cons, List.sum_cons, ih]

namespace Table

/-- The names that are given an integer value. -/
def entryNames (definitions : List Definition) : Set Text :=
  {name | ∃ d ∈ literals definitions, d.name = name}

/-- The pairs of an entry's name and another name that is defined as the stem and the entry's. -/
def aliasPairs (stem : Text) (definitions : List Definition) : Set (Text × Text) :=
  {p | p.1 ∈ entryNames definitions ∧ p.2 ≠ p.1
    ∧ ∃ d ∈ candidates definitions, d.name = p.2 ∧ d.value = stem ++ p.1}

variable {stem : Text} {definitions : List Definition}

/-! ### Entries -/

theorem mem_entryNames_iff (stem : Text) {name : Text} :
    name ∈ entryNames definitions
      ↔ name ∈ (build stem definitions).entries.map Entry.name := by
  rw [List.mem_map]
  exact (exists_mem_build_iff stem definitions (· = name)).symm

/-- There are as many entries as names that are given an integer value. -/
theorem encard_entryNames (stem : Text) (definitions : List Definition) :
    (entryNames definitions).encard = (build stem definitions).entries.length := by
  rw [encard_eq_length (nodup_names_build stem definitions) fun _ => mem_entryNames_iff stem,
    List.length_map]

/-! ### Aliases -/

theorem mem_aliasNames_iff {name a : Text} :
    a ∈ aliasNames stem name definitions
      ↔ a ≠ name ∧ ∃ d ∈ definitions, d.name = a ∧ d.value = stem ++ name := by
  simp only [aliasNames, List.mem_map, List.mem_filter, decide_eq_true_eq]
  constructor
  · rintro ⟨d, ⟨hd, hvalue, hself⟩, rfl⟩
    exact ⟨hself, d, hd, rfl, hvalue⟩
  · rintro ⟨hself, d, hd, rfl, hvalue⟩
    exact ⟨d, ⟨hd, hvalue, hself⟩, rfl⟩

/-- The pairs of an entry's name and one of its aliases, entry by entry. -/
def pairs (t : Table) : List (Text × Text) :=
  t.entries.flatMap fun e => e.aliases.map (Prod.mk e.name)

theorem length_pairs (t : Table) : t.pairs.length = t.aliasCount := by
  rw [pairs, List.length_flatMap, aliasCount, total_eq_sum]
  simp only [List.length_map]

/-- No pair stands twice: the names of the entries are told apart, and so are the aliases of
one. -/
theorem nodup_pairs_build (stem : Text) (definitions : List Definition) :
    (build stem definitions).pairs.Nodup := by
  refine List.nodup_flatMap.mpr ⟨fun e he => ?_, ?_⟩
  · rw [aliases_of_mem_build he]
    exact (nodup_eraseDups _).map (Prod.mk_right_injective e.name)
  · have hnames := List.pairwise_map.mp (nodup_names_build stem definitions)
    refine hnames.imp fun {e e'} hne => ?_
    intro p hp hp'
    obtain ⟨a, -, rfl⟩ := List.mem_map.mp hp
    obtain ⟨a', -, hpair⟩ := List.mem_map.mp hp'
    exact hne (congrArg Prod.fst hpair).symm

theorem mem_aliasPairs_iff {p : Text × Text} :
    p ∈ aliasPairs stem definitions ↔ p ∈ (build stem definitions).pairs := by
  obtain ⟨name, a⟩ := p
  simp only [aliasPairs, pairs, Set.mem_ofPred_eq, List.mem_flatMap, List.mem_map,
    Prod.mk.injEq, mem_entryNames_iff stem]
  constructor
  · rintro ⟨⟨e, he, rfl⟩, halias⟩
    refine ⟨e, he, a, ?_, rfl, rfl⟩
    rw [aliases_of_mem_build he, List.mem_eraseDups]
    exact mem_aliasNames_iff.mpr halias
  · rintro ⟨e, he, a, ha, rfl, rfl⟩
    rw [aliases_of_mem_build he, List.mem_eraseDups] at ha
    exact ⟨⟨e, he, rfl⟩, mem_aliasNames_iff.mp ha⟩

/-- There are as many aliases as pairs of an entry's name and another that is defined as it. -/
theorem encard_aliasPairs (stem : Text) (definitions : List Definition) :
    (aliasPairs stem definitions).encard = (build stem definitions).aliasCount := by
  rw [encard_eq_length (nodup_pairs_build stem definitions) fun _ => mem_aliasPairs_iff,
    length_pairs]

/-! ### What is left over -/

/-- There are as many definitions left over as candidates whose value is not the stem and a name
that is given an integer value. -/
theorem length_unresolved_build (stem : Text) (definitions : List Definition) :
    (build stem definitions).unresolved.length
      = (candidates definitions).countP fun d =>
          ¬ ∃ target ∈ literals definitions, d.value = stem ++ target.name := by
  rw [unresolved_build, ← List.countP_eq_length_filter]
  simp only [refers_build_iff]

end Table

end NameTables
