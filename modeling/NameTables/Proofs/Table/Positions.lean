import Mathlib.Data.List.Nodup
import NameTables.Table.Basic

/-!
# Where entries stand

The index of a table is in step with its entries, so no two entries have one name, and a change at
the position of a name is a change of the entry with that name and of no other.

## Main statements

* `Table.position?_eq_none_iff`, `Table.nodup_names` — the names that have a position, each once.
* `Table.modify_eq_map` — a change at the position of a name.
* `Table.find?_eq_some_iff` — the entry found under a name is the one that has it.
-/

namespace NameTables

namespace Table

variable {t : Table} {name : Text} {i : Nat} {e : Entry}

theorem position?_eq_some_iff :
    t.index.position? name = some i ↔ ∃ e, t.entries[i]? = some e ∧ e.name = name := by
  rw [t.indexed name i, Option.map_eq_some_iff]

/-- A name has a position if an entry has the name. -/
theorem position?_eq_none_iff :
    t.index.position? name = none ↔ ¬ ∃ e ∈ t.entries, e.name = name := by
  rw [Option.eq_none_iff_forall_ne_some, ← not_exists, not_iff_not]
  simp only [position?_eq_some_iff, List.mem_iff_getElem?]
  constructor
  · rintro ⟨i, e, he, hname⟩
    exact ⟨e, ⟨i, he⟩, hname⟩
  · rintro ⟨e, ⟨i, he⟩, hname⟩
    exact ⟨i, e, he, hname⟩

theorem exists_position_iff :
    (∃ i, t.index.position? name = some i) ↔ ∃ e ∈ t.entries, e.name = name := by
  rw [← Option.isSome_iff_exists, ← not_iff_not, Option.not_isSome_iff_eq_none,
    position?_eq_none_iff]

/-- No two entries have one name. -/
theorem nodup_names (t : Table) : (t.entries.map Entry.name).Nodup := by
  rw [List.nodup_iff_getElem?_ne_getElem?]
  intro i j hij hj hsame
  have hsome : (t.entries.map Entry.name)[j]? = some (t.entries.map Entry.name)[j] :=
    List.getElem?_eq_getElem hj
  rw [List.getElem?_map, List.getElem?_map] at hsame
  rw [List.getElem?_map] at hsome
  -- the name would have two positions
  have hposition := (t.indexed _ j).mpr hsome
  rw [(t.indexed _ i).mpr (hsame.trans hsome), Option.some.injEq] at hposition
  omega

/-- A change at the position of a name is a change of the entry with that name. -/
theorem modify_eq_map (h : t.index.position? name = some i) (f : Entry → Entry) :
    t.entries.modify i f = t.entries.map fun e => if e.name = name then f e else e := by
  refine List.ext_getElem? fun j => ?_
  rw [List.getElem?_modify, List.getElem?_map]
  cases hj : t.entries[j]? with
  | none => simp
  | some e =>
    have hiff : e.name = name ↔ i = j := by
      have hposition := t.indexed name j
      rw [h, hj, Option.map_some, Option.some.injEq, Option.some.injEq] at hposition
      exact hposition.symm
    simp only [hiff, Option.map_some]
    split <;> rfl

/-- The entry found under a name is the one that has it. -/
theorem find?_eq_some_iff : t.find? name = some e ↔ e ∈ t.entries ∧ e.name = name := by
  rw [find?, Option.bind_eq_some_iff]
  constructor
  · rintro ⟨i, hi, he⟩
    obtain ⟨e', he', hname⟩ := position?_eq_some_iff.mp hi
    obtain rfl : e = e' := Option.some.inj (he.symm.trans he')
    exact ⟨List.mem_of_getElem? he, hname⟩
  · rintro ⟨he, hname⟩
    obtain ⟨i, hi⟩ := List.mem_iff_getElem?.mp he
    exact ⟨i, position?_eq_some_iff.mpr ⟨e, hi, hname⟩, hi⟩

end Table

end NameTables
