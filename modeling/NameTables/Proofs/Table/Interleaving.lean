import NameTables.Artefact.Basic
import NameTables.Proofs.Table.Steps

/-!
# Literals and candidates interleaved

The first pass passes over the candidates and the second is given nothing else, so a table depends
on two lists only: the definitions with an integer value and the others, each in its order.  How
the two are interleaved in a header makes no difference.

## Main definitions

* `Table.SameParts` — two lists of definitions with the same literals and the same candidates.

## Main statements

* `Table.build_eq_foldl` — a table from its two lists.
* `Table.SameParts.move` — a candidate may be moved over literals.
* `Table.build_eq_of_parts` — the same parts make the same table, however they are interleaved.
-/

namespace NameTables

namespace Table

/-- The same definitions with an integer value, in the same order, and the same others. -/
structure SameParts (a b : List Definition) : Prop where
  /-- The definitions with an integer value. -/
  literals : Table.literals a = Table.literals b
  /-- The others. -/
  candidates : Table.candidates a = Table.candidates b

/-- The first pass passes over the candidates. -/
theorem foldl_defineLiteral_literals (definitions : List Definition) (t : Table) :
    (literals definitions).foldl defineLiteral t = definitions.foldl defineLiteral t := by
  induction definitions generalizing t with
  | nil => rfl
  | cons d l ih =>
    rw [List.foldl_cons, ← ih]
    cases hd : Literal.value? d.value with
    | none =>
      have hskip : literals (d :: l) = literals l := by simp [literals, hd]
      rw [hskip, defineLiteral_of_none hd]
    | some value =>
      have htake : literals (d :: l) = d :: literals l := by simp [literals, hd]
      rw [htake, List.foldl_cons]

/-- A table from its two lists: no candidate is looked at before the last literal. -/
theorem build_eq_foldl (stem : Text) (definitions : List Definition) :
    build stem definitions
      = (candidates definitions).foldl (attach stem)
          ((literals definitions).foldl defineLiteral empty) := by
  rw [foldl_defineLiteral_literals]
  rfl

theorem SameParts.build_eq {a b : List Definition} (h : SameParts a b) (stem : Text) :
    build stem a = build stem b := by
  rw [build_eq_foldl, h.literals, h.candidates, ← build_eq_foldl]

/-- A candidate may be moved over literals. -/
theorem SameParts.move {other : Definition} (hother : Literal.value? other.value = none)
    {between : List Definition} (hbetween : ∀ d ∈ between, (Literal.value? d.value).isSome)
    (above below : List Definition) :
    SameParts (above ++ other :: (between ++ below)) (above ++ (between ++ other :: below)) := by
  have hliterals : Table.literals [other] = [] := by simp [Table.literals, hother]
  have hcandidates : Table.candidates between = [] := by
    rw [Table.candidates, List.filter_eq_nil_iff]
    intro d hd
    rw [isCandidate, ← Option.not_isSome, hbetween d hd]
    decide
  rw [List.append_cons above other, List.append_cons between other]
  constructor
  · simp only [literals_append, hliterals, List.nil_append, List.append_assoc]
  · simp only [candidates_append, hcandidates, List.nil_append, List.append_assoc]

/-- **How literals and candidates are interleaved makes no difference.**  Two lists of definitions
with the same definitions of an integer value, in the same order, and the same others, in the same
order, make the same table, which is written in the same way in every shape.  So an alias may stand
before its target, after it or between two definitions of it. -/
theorem build_eq_of_parts (stem : Text) :
    (∀ a b, SameParts a b →
        build stem a = build stem b
          ∧ ∀ request, (build stem a).render request = (build stem b).render request)
      ∧ ∀ (other : Definition) (above between below : List Definition),
          Literal.value? other.value = none →
          (∀ d ∈ between, (Literal.value? d.value).isSome) →
            build stem (above ++ other :: (between ++ below))
              = build stem (above ++ (between ++ other :: below)) := by
  refine ⟨fun a b h => ?_, fun other above between below hother hbetween => ?_⟩
  · have htable := h.build_eq stem
    refine ⟨htable, fun request => ?_⟩
    rw [htable]
  · exact (SameParts.move hother hbetween above below).build_eq stem

/-- An alias in front of its target, between two definitions of it, and behind both. -/
theorem build_eq_of_parts_at_redefinition :
    let target : Definition := ⟨"A".toList, "1".toList⟩
    let again : Definition := ⟨"A".toList, "0x2u".toList⟩
    let other : Definition := ⟨"B".toList, "K_A".toList⟩
    let stray : Definition := ⟨"C".toList, "K_B".toList⟩
    SameParts [other, target, stray, again] [target, other, again, stray]
      ∧ build "K_".toList [other, target, stray, again]
        = build "K_".toList [target, other, again, stray]
      ∧ (build "K_".toList [other, target, stray, again]).entries
        = [⟨"A".toList, 2, "0x2u".toList, ["B".toList]⟩]
      ∧ (build "K_".toList [target, other, again, stray]).unresolved = [stray]
      ∧ build "K_".toList [other, target, again] = build "K_".toList [target, again, other] := by
  intro target again other stray
  have hparts : SameParts [other, target, stray, again] [target, other, again, stray] :=
    ⟨by decide, by decide⟩
  have hboth := build_eq_of_parts "K_".toList
  refine ⟨hparts, (hboth.1 _ _ hparts).1, by decide +kernel, by decide +kernel, ?_⟩
  exact hboth.2 other [] [target, again] [] (by decide) (by decide)

end Table

end NameTables
