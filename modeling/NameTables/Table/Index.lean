import NameTables.Entry

/-!
# Positions of names

An index tells where the entry of each name stands, so that a name is found without a search.  It
is kept in step with the entries: an entry that is changed where it stands keeps its name, and a
new one comes behind the others.

## Main definitions

* `NameIndex`, `NameIndex.position?` — positions under names.
* `NameIndex.Tells` — an index tells of each name where its entry stands, and of no other name.

## Main statements

* `NameIndex.Tells.modify`, `NameIndex.Tells.concat` — the two changes of the entries.
-/

namespace NameTables

/-- Positions under names. -/
abbrev NameIndex := List (Text × Nat)

namespace NameIndex

/-- The position under a name. -/
def position? (index : NameIndex) (name : Text) : Option Nat := index.lookup name

@[simp] theorem position?_nil (name : Text) : position? [] name = none := rfl

theorem position?_cons (name other : Text) (i : Nat) (index : NameIndex) :
    position? ((name, i) :: index) other
      = if other = name then some i else index.position? other := by
  by_cases h : other = name
  · simp [position?, h]
  · have hne : (other == name) = false := beq_eq_false_iff_ne.mpr h
    rw [position?, List.lookup_cons, hne, if_neg h, position?]

/-- The index tells of a name where the entry with that name stands, and of no other name. -/
def Tells (index : NameIndex) (entries : List Entry) : Prop :=
  ∀ name i, index.position? name = some i ↔ entries[i]?.map Entry.name = some name

variable {index : NameIndex} {entries : List Entry}

theorem tells_nil : Tells [] [] := by
  intro name i
  simp

/-- An entry is changed where it stands. -/
theorem Tells.modify (h : index.Tells entries) {f : Entry → Entry}
    (hf : ∀ e, (f e).name = e.name) (i : Nat) : index.Tells (entries.modify i f) := by
  intro name j
  have hname : (entries.modify i f)[j]?.map Entry.name = entries[j]?.map Entry.name := by
    rw [List.getElem?_modify]
    split <;> simp [Function.comp_def, hf]
  rw [hname]
  exact h name j

/-- An entry with a new name comes behind the others. -/
theorem Tells.concat (h : index.Tells entries) {e : Entry} (hnew : index.position? e.name = none) :
    Tells ((e.name, entries.length) :: index) (entries ++ [e]) := by
  intro name j
  rw [position?_cons]
  rcases Nat.lt_trichotomy j entries.length with hlt | rfl | hgt
  · rw [List.getElem?_append_left hlt]
    split
    · next hname =>
      -- the name is new, so it is no other entry's
      subst hname
      have hother : entries[j]?.map Entry.name ≠ some e.name := by
        rw [Ne, ← h e.name j, hnew]
        exact nofun
      exact iff_of_false (fun hj => Nat.ne_of_gt hlt (Option.some.inj hj)) hother
    · exact h name j
  · rw [List.getElem?_concat_length, Option.map_some, Option.some.injEq]
    split
    · next hname => exact iff_of_true rfl hname.symm
    · next hname =>
      rw [h name, List.getElem?_eq_none (Nat.le_refl _)]
      exact iff_of_false nofun (Ne.symm hname)
  · have hnone : (entries ++ [e])[j]? = none :=
      List.getElem?_eq_none (by rw [List.length_append]; exact hgt)
    rw [hnone]
    split
    · exact iff_of_false (fun hj => Nat.ne_of_lt hgt (Option.some.inj hj)) nofun
    · rw [h name j, List.getElem?_eq_none (Nat.le_of_lt hgt)]

end NameIndex

end NameTables
