import NameTables.Proofs.Artefact.Agreement
import NameTables.Proofs.Table.Contents

/-!
# Which entry stands for a value

Of several entries with one value, the one furthest down the table stands for it, in the rows by
value and in a flat array alike.  A name has its place in the table from the first definition that
gives it an integer value, and its value from the last.  So the entry that stands for a value is the
one whose name came first the latest, which need not be the one that was given the value the latest:
a name defined again takes the new value without moving.

## Main definitions

* `Table.definingNames` — the names that are given an integer value, as often as they are, of the
  entries that have a value in the end.

## Main statements

* `Table.eraseDups_definingNames` — their first occurrences are the entries with the value.
* `Table.standing_entry` — the entry that stands for a value, and when another one was given the
  value later.
* `Table.standing_entry_passed_over` — a name that was.
-/

namespace NameTables

namespace Table

/-- The names of the definitions with an integer value, in order and with repeats, where the entry
of the name has `value` in the end. -/
def definingNames (t : Table) (definitions : List Definition) (value : Int) : List Text :=
  ((literals definitions).map Definition.name).filter fun name =>
    ∃ e ∈ t.entries, e.name = name ∧ e.value = value

variable {stem : Text} {definitions : List Definition} {value : Int} {e : Entry}

/-- The value of an entry is told by its name. -/
theorem value_eq_iff_exists {t : Table} (he : e ∈ t.entries) :
    e.value = value ↔ ∃ e' ∈ t.entries, e'.name = e.name ∧ e'.value = value := by
  constructor
  · intro hvalue
    exact ⟨e, he, rfl, hvalue⟩
  · rintro ⟨e', he', hname, hvalue⟩
    rwa [List.inj_on_of_nodup_map t.nodup_names he' he hname] at hvalue

/-- The entries with a value, in the order of the table, are those whose names are defined, in the
order in which they come first. -/
theorem eraseDups_definingNames (stem : Text) (definitions : List Definition) (value : Int) :
    ((build stem definitions).definingNames definitions value).eraseDups
      = ((build stem definitions).entries.filter fun e => e.value = value).map Entry.name := by
  rw [definingNames, eraseDups_filter, ← names_build stem, List.filter_map]
  congr 1
  refine List.filter_congr fun e he => ?_
  exact decide_eq_decide.mpr (value_eq_iff_exists he).symm

/-- The entry that was given the value last, if it is not the one furthest down the table, was given
an integer value before. -/
theorem getLast?_definingNames {w : Entry}
    (hw : ((build stem definitions).entries.filter fun e => e.value = value).getLast? = some w) :
    ((build stem definitions).definingNames definitions value).getLast? = some w.name
      ∨ ∃ e ∈ (build stem definitions).entries, e.value = value ∧ e.name ≠ w.name
          ∧ ((build stem definitions).definingNames definitions value).getLast? = some e.name
          ∧ 1 < ((build stem definitions).definingNames definitions value).count e.name := by
  have hfirst : ((build stem definitions).definingNames definitions value).eraseDups.getLast?
      = some w.name := by
    rw [eraseDups_definingNames, List.getLast?_map, hw, Option.map_some]
  cases hlast : ((build stem definitions).definingNames definitions value).getLast? with
  | none =>
    rw [List.getLast?_eq_none_iff] at hlast
    rw [hlast, List.eraseDups_nil] at hfirst
    cases hfirst
  | some name =>
    by_cases hname : name = w.name
    · exact .inl (congrArg some hname)
    · have hmem := List.mem_filter.mp (List.mem_of_getLast? hlast)
      obtain ⟨e, he, rfl, hvalue⟩ := of_decide_eq_true hmem.2
      refine .inr ⟨e, he, hvalue, hname, rfl, ?_⟩
      -- a name that came but once, and last, would have come first the latest
      by_contra honce
      rw [getLast?_eraseDups hlast (Nat.le_of_not_lt honce)] at hfirst
      exact hname (Option.some.inj hfirst)

/-- The row with a value is the last entry that has it. -/
theorem mem_ascending_iff {t : Table} {w : Entry}
    (hw : (t.entries.filter fun e => e.value = value).getLast? = some w) (row : Entry) :
    row ∈ t.ordered .ascending ∧ row.value = value ↔ row = w := by
  have hvalue : w.value = value :=
    of_decide_eq_true (List.mem_filter.mp (List.mem_of_getLast? hw)).2
  have hmem : ∀ e, (value, e) ∈ t.byValue ↔ e ∈ t.ordered .ascending ∧ e.value = value := by
    intro e
    rw [byValue_eq_map, List.mem_map]
    constructor
    · rintro ⟨e', he', hpair⟩
      obtain ⟨hkey, rfl⟩ := Prod.mk.inj hpair
      exact ⟨he', hkey⟩
    · rintro ⟨he, rfl⟩
      exact ⟨e, he, rfl⟩
  rw [← hmem, mem_byValue_iff, hw, Option.some.injEq, eq_comm]

theorem find?_byValue (t : Table) (value : Int) :
    Ranking.find? t.byValue value = (t.entries.filter fun e => e.value = value).getLast? := by
  have hsorted : Ranking.Sorted t.byValue := Ranking.sorted_ofList _
  refine Option.ext fun e => ?_
  rw [hsorted.find?_eq_some_iff, mem_byValue_iff]

/-- **The entry that stands for a value.**  For a value that some entry has, one entry with it is
the row by value and, where no bound is given, the entry in the slot of the value.  Of the names
that are given an integer value and have this one in the end, it is the name that came first the
latest.  So it is the name that was given its value the latest, unless that is another one, which
had been given an integer value before. -/
theorem standing_entry (h : ∃ e ∈ (build stem definitions).entries, e.value = value) :
    let t := build stem definitions
    let names := t.definingNames definitions value
    ∃ w ∈ t.entries, w.value = value
      ∧ Ranking.find? t.byValue value = some w
      ∧ (∀ row, row ∈ t.ordered .ascending ∧ row.value = value ↔ row = w)
      ∧ (∀ slots, Slots.ofTable t none = .ok slots →
          ∀ i : Nat, (i : Int) = value → slots.get? i = some w)
      ∧ names.eraseDups.getLast? = some w.name
      ∧ (names.getLast? = some w.name
          ∨ ∃ e ∈ t.entries, e.value = value ∧ e.name ≠ w.name
              ∧ names.getLast? = some e.name ∧ 1 < names.count e.name) := by
  intro t names
  obtain ⟨e, he, hvalue⟩ := h
  have hne : (t.entries.filter fun e => e.value = value) ≠ [] :=
    List.ne_nil_of_mem (List.mem_filter.mpr ⟨he, decide_eq_true hvalue⟩)
  obtain ⟨w, hw⟩ : ∃ w, (t.entries.filter fun e => e.value = value).getLast? = some w :=
    ⟨_, List.getLast?_eq_some_getLast hne⟩
  obtain ⟨hmem, hwvalue⟩ := List.mem_filter.mp (List.mem_of_getLast? hw)
  refine ⟨w, hmem, of_decide_eq_true hwvalue, ?_, mem_ascending_iff hw, ?_, ?_,
    getLast?_definingNames hw⟩
  · rw [find?_byValue, hw]
  · rintro slots hslots i rfl
    rw [Slots.get?, (Slots.assigned_of_ofTable hslots).1, Slots.find?_assignedIn_none, hw]
  · rw [eraseDups_definingNames, List.getLast?_map, hw, Option.map_some]

/-- A value that is given to one name, then to a second and then to the first again. -/
theorem standing_entry_at_redefinition :
    let definitions : List Definition := [⟨"A".toList, "1".toList⟩, ⟨"B".toList, "0x1".toList⟩,
      ⟨"A".toList, "01".toList⟩]
    let t := build [] definitions
    let b : Entry := ⟨"B".toList, 1, "0x1".toList, []⟩
    (∃ e ∈ t.entries, e.value = 1) ∧ Ranking.find? t.byValue 1 = some b
      ∧ (∀ slots, Slots.ofTable t none = .ok slots → slots.get? 1 = some b)
      ∧ (t.definingNames definitions 1).eraseDups.getLast? = some b.name := by
  intro definitions t b
  have hvalue : ∃ e ∈ t.entries, e.value = 1 := by decide
  obtain ⟨w, -, -, hfind, -, hslot, hfirst, -⟩ := standing_entry hvalue
  have hb : Ranking.find? t.byValue 1 = some b := by decide
  obtain rfl : w = b := Option.some.inj (hfind.symm.trans hb)
  exact ⟨hvalue, hb, fun slots hslots => hslot slots hslots 1 rfl, hfirst⟩

/-- A name that takes over a value from below is passed over: the entry below it stands for the
value, in the rows and in a flat array, though the name was given the value later. -/
theorem standing_entry_passed_over :
    let definitions : List Definition := [⟨"A".toList, "1".toList⟩, ⟨"B".toList, "2".toList⟩,
      ⟨"A".toList, "2".toList⟩]
    let t := build [] definitions
    let a : Entry := ⟨"A".toList, 2, "2".toList, []⟩
    let b : Entry := ⟨"B".toList, 2, "2".toList, []⟩
    t.entries = [a, b] ∧ (t.definingNames definitions 2).getLast? = some a.name
      ∧ Ranking.find? t.byValue 2 = some b ∧ t.ordered .ascending = [b]
      ∧ Slots.ofTable t none = .ok ⟨3, [(2, b)]⟩ := by
  decide

end Table

end NameTables
