import Mathlib.Tactic.SplitIfs
import NameTables.Proofs.Table.Form
import NameTables.Proofs.Table.Ranking

/-!
# What stands behind an artefact

An artefact is made when the table has an entry and its shape can be written, and its counts are
those of the table.  Its rows are entries of the table, so they are well formed.

## Main statements

* `Artefact.generate_eq_ok_iff` — when an artefact is made, and which.
* `Artefact.wellFormed_of_mem_ordered` — the rows of a table are well formed in either order.
-/

namespace NameTables

/-- The rows of a table are entries of it. -/
theorem Table.mem_entries_of_mem_ordered {t : Table} {order : RowOrder} {e : Entry}
    (h : e ∈ t.ordered order) : e ∈ t.entries := by
  cases order with
  | encounter => exact h
  | ascending =>
    obtain ⟨p, hp, rfl⟩ := List.mem_map.mp h
    obtain ⟨e, he, rfl⟩ := List.mem_map.mp (Ranking.mem_of_mem_ofList hp)
    exact he

namespace Artefact

/-- When an artefact is made, and which. -/
theorem generate_eq_ok_iff {source : Bytes} {sourceName : Text} {request : Request}
    {artefact : Artefact} :
    generate source sourceName request = .ok artefact ↔
      (tableOf request.stem source).entries ≠ []
        ∧ (tableOf request.stem source).render request = .ok artefact.text
        ∧ artefact.entries = (tableOf request.stem source).entries.length
        ∧ artefact.aliases = (tableOf request.stem source).aliasCount
        ∧ artefact.unresolved = (tableOf request.stem source).unresolved.length := by
  obtain ⟨text, entries, aliases, unresolved⟩ := artefact
  unfold generate
  simp only [List.isEmpty_iff]
  split_ifs with hempty
  · constructor
    · intro h
      cases h
    · rintro ⟨hne, -⟩
      exact absurd hempty hne
  · cases hrender : (tableOf request.stem source).render request with
    | error failure =>
      constructor
      · intro h
        cases h
      · rintro ⟨-, h, -⟩
        cases h
    | ok made =>
      constructor
      · intro h
        cases h
        exact ⟨hempty, rfl, rfl, rfl, rfl⟩
      · rintro ⟨-, htext, rfl, rfl, rfl⟩
        cases htext
        rfl

/-- The rows of a header's table are well formed in either order. -/
theorem wellFormed_of_mem_ordered {stem : Text} {source : Bytes} {order : RowOrder} :
    ∀ e ∈ (tableOf stem source).ordered order, e.WellFormed := fun e he =>
  wellFormed_of_mem_entries e (Table.mem_entries_of_mem_ordered he)

end Artefact

end NameTables
