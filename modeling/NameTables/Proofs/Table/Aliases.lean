import NameTables.Proofs.Table.Contents

/-!
# What becomes of candidates

The names in a table are told apart, so a definition refers to one entry at most.  A candidate that
refers to an entry gives it its name as an alias, unless it has the entry's own name or one that the
entry has already; any other candidate is left over.  None is lost and none is used twice.

## Main statements

* `Table.Refers.existsUnique` — a definition refers to one entry at most.
* `Table.account_of_candidates` — what becomes of every candidate.
-/

namespace NameTables

namespace Table

variable {stem : Text} {t : Table} {d : Definition} {definitions : List Definition} {e : Entry}

/-- A definition refers to one entry at most. -/
theorem Refers.existsUnique (h : Refers stem t d) :
    ∃! e, e ∈ t.entries ∧ d.value = stem ++ e.name := by
  obtain ⟨e, he, hvalue⟩ := h
  refine ⟨e, ⟨he, hvalue⟩, ?_⟩
  rintro e' ⟨he', hvalue'⟩
  have hname : e'.name = e.name := List.append_cancel_left (hvalue'.symm.trans hvalue)
  exact List.inj_on_of_nodup_map t.nodup_names he' he hname

/-- A candidate that refers to an entry under another name is one of its aliases. -/
theorem name_mem_aliases_of_refers (he : e ∈ (build stem definitions).entries)
    (hd : d ∈ candidates definitions) (hvalue : d.value = stem ++ e.name)
    (hname : d.name ≠ e.name) : d.name ∈ e.aliases := by
  rw [aliases_of_mem_build he, List.mem_eraseDups]
  refine List.mem_map_of_mem (List.mem_filter.mpr ⟨hd, ?_⟩)
  exact decide_eq_true ⟨hvalue, hname⟩

/-- A candidate is left over exactly when it refers to no entry. -/
theorem mem_unresolved_build_iff (hd : d ∈ candidates definitions) :
    d ∈ (build stem definitions).unresolved ↔ ¬ Refers stem (build stem definitions) d := by
  rw [unresolved_build, List.mem_filter, decide_eq_true_eq]
  exact and_iff_right hd

/-- **Every candidate is accounted for.**  The aliases of an entry are the names, other than its own,
of the candidates whose value is the stem and its name, each where it comes first.  What is left
over are the candidates whose value is not the stem and the name of an entry, in order and as often
as they stand.  So a candidate is left over, or it refers to exactly one entry and has that entry's
own name or is one of its aliases. -/
theorem account_of_candidates (stem : Text) (definitions : List Definition) :
    let t := build stem definitions
    let candidates := definitions.filter fun d => (Literal.value? d.value).isNone
    (∀ e ∈ t.entries,
        e.aliases
          = ((candidates.filter fun d => d.value = stem ++ e.name ∧ d.name ≠ e.name).map
              Definition.name).eraseDups)
      ∧ t.unresolved = candidates.filter (fun d => ¬ ∃ e ∈ t.entries, d.value = stem ++ e.name)
      ∧ ∀ d ∈ candidates,
          (d ∈ t.unresolved ∧ ∀ e ∈ t.entries, d.value ≠ stem ++ e.name)
            ∨ (d ∉ t.unresolved
              ∧ ∃! e, (e ∈ t.entries ∧ d.value = stem ++ e.name)
                ∧ (d.name = e.name ∨ d.name ≠ e.name ∧ d.name ∈ e.aliases)) := by
  intro t candidates
  refine ⟨fun e he => aliases_of_mem_build he, unresolved_build stem definitions, fun d hd => ?_⟩
  by_cases hrefers : Refers stem t d
  · right
    refine ⟨fun hmem => (mem_unresolved_build_iff hd).mp hmem hrefers, ?_⟩
    obtain ⟨e, ⟨he, hvalue⟩, hunique⟩ := hrefers.existsUnique
    refine ⟨e, ⟨⟨he, hvalue⟩, ?_⟩, fun e' he' => hunique e' he'.1⟩
    by_cases hname : d.name = e.name
    · exact .inl hname
    · exact .inr ⟨hname, name_mem_aliases_of_refers he hd hvalue hname⟩
  · left
    exact ⟨(mem_unresolved_build_iff hd).mpr hrefers, fun e he hvalue => hrefers ⟨e, he, hvalue⟩⟩

/-- An alias in front of its target, one that is given twice, a target's own name and one more that
refers to nothing. -/
example :
    let t := build "K_".toList [⟨"B".toList, "K_A".toList⟩, ⟨"A".toList, "1".toList⟩,
      ⟨"C".toList, "K_A".toList⟩, ⟨"B".toList, "K_A".toList⟩, ⟨"A".toList, "K_A".toList⟩,
      ⟨"D".toList, "K_B".toList⟩]
    t.entries = [⟨"A".toList, 1, "1".toList, ["B".toList, "C".toList]⟩]
      ∧ t.unresolved = [⟨"D".toList, "K_B".toList⟩] := by
  decide

end Table

end NameTables
