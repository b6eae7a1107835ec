import NameTables.Proofs.Table.Contents

/-!
# Finding entries by name

A table holds one entry for each name that is given an integer value, with the literal given last,
and its index leads to that entry and to no other.  The second pass changes entries where they
stand, so the index it leaves is that of the first.

## Main statements

* `Table.index_build` — the second pass leaves the index alone.
* `Table.find?_cases` — what is found under a name.
* `Table.entries_and_index_build` — the entries of a table and how they are found.
-/

namespace NameTables

namespace Table

variable {stem : Text} {t : Table} {name : Text} {definitions : List Definition} {e : Entry}

@[simp] theorem index_attach (stem : Text) (t : Table) (d : Definition) :
    (attach stem t d).index = t.index := by
  unfold attach
  split <;> rfl

theorem index_foldl_attach (stem : Text) (l : List Definition) (t : Table) :
    (l.foldl (attach stem) t).index = t.index := by
  induction l generalizing t with
  | nil => rfl
  | cons d l ih => rw [List.foldl_cons, ih, index_attach]

/-- The second pass leaves the index alone. -/
theorem index_build (stem : Text) (definitions : List Definition) :
    (build stem definitions).index = (definitions.foldl defineLiteral empty).index :=
  index_foldl_attach stem _ _

/-- Under a name the one entry is found that has it, or nothing if none has. -/
theorem find?_cases (t : Table) (name : Text) :
    (∃ e, t.find? name = some e ∧ e ∈ t.entries ∧ e.name = name
        ∧ ∀ e' ∈ t.entries, e'.name = name → e' = e)
      ∨ (t.find? name = none ∧ ∀ e ∈ t.entries, e.name ≠ name) := by
  cases h : t.find? name with
  | some e =>
    obtain ⟨he, hname⟩ := find?_eq_some_iff.mp h
    refine .inl ⟨e, rfl, he, hname, fun e' he' hname' => ?_⟩
    exact List.inj_on_of_nodup_map t.nodup_names he' he (hname'.trans hname.symm)
  | none =>
    refine .inr ⟨rfl, fun e he hname => ?_⟩
    rw [find?_eq_some_iff.mpr ⟨he, hname⟩] at h
    cases h

/-- **The entries of a table and how they are found.**  The names of the entries are those that are
given an integer value, each once and in the order in which they come first.  An entry has the
literal of the last definition of its name with an integer value, and the value of that literal.
Under a name the one entry is found that has it, and nothing if none has.  The index that finds it
holds the positions of the names of the entries and nothing else, and the second pass leaves it
alone. -/
theorem entries_and_index_build (stem : Text) (definitions : List Definition) :
    let t := build stem definitions
    let defined := definitions.filter fun d => (Literal.value? d.value).isSome
    ((t.entries.map Entry.name).Nodup
        ∧ t.entries.map Entry.name = (defined.map Definition.name).eraseDups)
      ∧ (∀ e ∈ t.entries,
          (∃ d, (defined.filter fun d => d.name = e.name).getLast? = some d ∧ e.literal = d.value)
            ∧ Literal.value? e.literal = some e.value)
      ∧ (∀ name,
          (∃ e, t.find? name = some e ∧ e ∈ t.entries ∧ e.name = name
              ∧ ∀ e' ∈ t.entries, e'.name = name → e' = e)
            ∨ (t.find? name = none ∧ ∀ e ∈ t.entries, e.name ≠ name))
      ∧ (∀ name i,
          t.index.position? name = some i ↔ ∃ e, t.entries[i]? = some e ∧ e.name = name)
      ∧ t.index = (definitions.foldl defineLiteral empty).index := by
  intro t defined
  refine ⟨⟨t.nodup_names, names_build stem definitions⟩, fun e he => ?_, t.find?_cases,
    fun name i => position?_eq_some_iff, index_build stem definitions⟩
  obtain ⟨d, hlast, hliteral, hvalue⟩ := exists_lastLiteral?_of_mem_build he
  refine ⟨⟨d, hlast, hliteral⟩, ?_⟩
  rw [hliteral]
  exact hvalue

end Table

end NameTables
