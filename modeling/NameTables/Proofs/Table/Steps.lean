import Mathlib.Data.List.Basic
import Mathlib.Tactic.SplitIfs
import NameTables.Proofs.Table.Positions

/-!
# Building a table step by step

The first pass changes or adds one entry at each step.  The second changes no names and treats
each entry on its own: what an entry gets is decided by its name and the candidates alone, so the
whole pass is one map over the entries.

## Main definitions

* `Entry.revalued` — an entry after its name is defined again.
* `Entry.attached` — an entry after a candidate is attached to the entry it names.
* `Table.literals`, `Table.candidates` — the definitions that either pass is about.

## Main statements

* `Table.entries_define`, `Table.entries_attach` — what one step does to the entries.
* `Table.entries_build` — the entries of a table, as a map over those of the first pass.
-/

namespace NameTables

/-- The entry after `d` is defined as `value`. -/
def Entry.revalued (d : Definition) (value : Int) (e : Entry) : Entry :=
  if e.name = d.name then { e with value := value, literal := d.value } else e

/-- The entry after the definition `d` is attached to the entry it names. -/
def Entry.attached (stem : Text) (e : Entry) (d : Definition) : Entry :=
  if Table.targetOf? stem d = some e.name then e.addAlias d.name else e

namespace Entry

@[simp] theorem revalued_name (d : Definition) (value : Int) (e : Entry) :
    (e.revalued d value).name = e.name := by
  unfold revalued; split <;> rfl

@[simp] theorem revalued_aliases (d : Definition) (value : Int) (e : Entry) :
    (e.revalued d value).aliases = e.aliases := by
  unfold revalued; split <;> rfl

@[simp] theorem attached_name (stem : Text) (e : Entry) (d : Definition) :
    (e.attached stem d).name = e.name := by
  unfold attached; split <;> simp

@[simp] theorem attached_value (stem : Text) (e : Entry) (d : Definition) :
    (e.attached stem d).value = e.value := by
  unfold attached; split <;> simp

@[simp] theorem attached_literal (stem : Text) (e : Entry) (d : Definition) :
    (e.attached stem d).literal = e.literal := by
  unfold attached; split <;> simp

/-- What no candidate changes, all of them leave as it is. -/
theorem foldl_attached_eq {β : Type} {stem : Text} {field : Entry → β}
    (hfield : ∀ e d, field (attached stem e d) = field e) (l : List Definition) (e : Entry) :
    field (l.foldl (attached stem) e) = field e := by
  induction l generalizing e with
  | nil => rfl
  | cons d l ih => rw [List.foldl_cons, ih, hfield]

@[simp] theorem foldl_attached_name (stem : Text) (l : List Definition) (e : Entry) :
    (l.foldl (attached stem) e).name = e.name := foldl_attached_eq (attached_name stem) l e

@[simp] theorem foldl_attached_value (stem : Text) (l : List Definition) (e : Entry) :
    (l.foldl (attached stem) e).value = e.value := foldl_attached_eq (attached_value stem) l e

@[simp] theorem foldl_attached_literal (stem : Text) (l : List Definition) (e : Entry) :
    (l.foldl (attached stem) e).literal = e.literal := foldl_attached_eq (attached_literal stem) l e

end Entry

namespace Table

/-- The entries after the first pass. -/
def literalEntries (definitions : List Definition) : List Entry :=
  (definitions.foldl defineLiteral empty).entries

/-- The candidates, in order. -/
def candidates (definitions : List Definition) : List Definition := definitions.filter isCandidate

/-- The definitions with an integer value, in order. -/
def literals (definitions : List Definition) : List Definition :=
  definitions.filter fun d => (Literal.value? d.value).isSome

theorem mem_literals {definitions : List Definition} {d : Definition} :
    d ∈ literals definitions ↔ d ∈ definitions ∧ ∃ value, Literal.value? d.value = some value := by
  simp [literals, Option.isSome_iff_exists]

@[simp] theorem candidates_append (a b : List Definition) :
    candidates (a ++ b) = candidates a ++ candidates b := List.filter_append a b

@[simp] theorem literals_append (a b : List Definition) :
    literals (a ++ b) = literals a ++ literals b := List.filter_append a b

/-! ### The first pass -/

theorem entries_define_of_mem {t : Table} {d : Definition} (value : Int)
    (h : ∃ e ∈ t.entries, e.name = d.name) :
    (t.define d value).entries = t.entries.map (Entry.revalued d value) := by
  unfold define
  split
  · next i hi => exact modify_eq_map hi _
  · next hnone => exact absurd h (position?_eq_none_iff.mp hnone)

theorem entries_define_of_not_mem {t : Table} {d : Definition} (value : Int)
    (h : ¬ ∃ e ∈ t.entries, e.name = d.name) :
    (t.define d value).entries = t.entries ++ [⟨d.name, value, d.value, []⟩] := by
  unfold define
  split
  · next i hi => exact absurd (exists_position_iff.mp ⟨i, hi⟩) h
  · rfl

theorem defineLiteral_of_some {t : Table} {d : Definition} {value : Int}
    (h : Literal.value? d.value = some value) : t.defineLiteral d = t.define d value := by
  rw [defineLiteral, h]

theorem defineLiteral_of_none {t : Table} {d : Definition}
    (h : Literal.value? d.value = none) : t.defineLiteral d = t := by
  rw [defineLiteral, h]

/-! ### The second pass -/

theorem entries_attach (stem : Text) (t : Table) (d : Definition) :
    (attach stem t d).entries = t.entries.map fun e => e.attached stem d := by
  unfold attach
  split
  · next i h =>
    obtain ⟨target, htarget, hi⟩ := Option.bind_eq_some_iff.mp h
    refine (modify_eq_map hi _).trans (List.map_congr_left fun e _ => ?_)
    rw [Entry.attached, htarget]
    by_cases hname : e.name = target
    · rw [if_pos hname, if_pos (by rw [hname])]
    · rw [if_neg hname, if_neg (by simpa using Ne.symm hname)]
  · next h =>
    -- the definition names no entry, so no entry changes
    refine (List.map_id _).symm.trans (List.map_congr_left fun e he => ?_)
    rw [Entry.attached, if_neg, id]
    intro htarget
    rw [htarget, Option.bind_some] at h
    exact position?_eq_none_iff.mp h ⟨e, he, rfl⟩

theorem entries_foldl_attach (stem : Text) (l : List Definition) (t : Table) :
    (l.foldl (attach stem) t).entries
      = t.entries.map fun e => l.foldl (Entry.attached stem) e := by
  induction l generalizing t with
  | nil => exact (List.map_id _).symm
  | cons d l ih =>
    rw [List.foldl_cons, ih, entries_attach, List.map_map]
    rfl

/-- **The entries of a table**: each entry of the first pass, with every candidate attached to it
that names it. -/
theorem entries_build (stem : Text) (definitions : List Definition) :
    (build stem definitions).entries
      = (literalEntries definitions).map fun e =>
          (candidates definitions).foldl (Entry.attached stem) e :=
  entries_foldl_attach stem _ _

end Table

end NameTables
