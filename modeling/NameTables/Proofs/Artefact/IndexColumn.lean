import Mathlib.Order.Bounds.Basic
import NameTables.Proofs.Artefact.Vector

/-!
# The index column of a flat array

The indices of a flat array are set to the right of a column that is as wide as the last index of
the array.  The array reaches as far as the bound, which takes no slot, so the column is as wide as
the greatest assigned index or as the index of the bound, whichever has more digits.  In the second
case a blank stands in front of every index.

## Main definitions

* `Slots.digits` — the number of decimal digits of an index.
* `Slots.SetRight` — an assignment with its index at the right of the column.

## Main statements

* `Slots.exists_isGreatest_key` — the assigned indices have a greatest one.
* `Slots.indexWidth_of_ofTable` — how wide the column is.
* `Slots.render_index_column` — how the assignments lie, and when the column is tight.
* `Slots.render_index_column_loose` — a column that is wider than every index in it.
-/

namespace NameTables

namespace Slots

variable {t : Table} {comment arrayName text : Text} {bound : Option Text} {slots : Slots}

/-! ### The digits of an index -/

/-- The number of decimal digits of an index. -/
def digits (i : Nat) : Nat := (Text.ofNat i).length

/-- A greater index does not have fewer digits. -/
theorem digits_mono : Monotone digits := by
  intro i j hij
  have hten : 1 < 10 := by decide
  have hpos : 0 < digits j := Nat.length_toDigits_pos
  have hj : j < 10 ^ digits j := (Nat.length_toDigits_le_iff hten hpos).mp le_rfl
  exact (Nat.length_toDigits_le_iff hten hpos).mpr (hij.trans_lt hj)

/-! ### The column -/

/-- The line assigns the entry to its index, which ends where a column of this width ends. -/
def SetRight (arrayName : Text) (width : Nat) (p : Nat × Entry) (line : Text) : Prop :=
  ∃ blanks, blanks + digits p.1 = width
    ∧ line = assignmentLead arrayName ++ (List.replicate blanks ' ' ++ (Text.ofNat p.1
      ++ (" ] = \"".toList ++ (p.2.display ++ "\";\n".toList))))

/-- An assignment is set to the right of a column that its index fits. -/
theorem setRight_assignment {width : Nat} {p : Nat × Entry} (hp : digits p.1 ≤ width) :
    SetRight arrayName width p (assignment arrayName width p.1 p.2) := by
  refine ⟨width - digits p.1, Nat.sub_add_cancel hp, ?_⟩
  unfold assignment assignmentLead Text.padLeft digits
  simp only [List.append_assoc]

/-- Some assigned index is the greatest, as soon as one is assigned. -/
theorem exists_isGreatest_key {r : Ranking Nat Entry} (hne : r ≠ []) :
    ∃ top, IsGreatest {i | i ∈ r.map Prod.fst} top := by
  obtain ⟨top, htop⟩ : ∃ top, (r.map Prod.fst).max? = some top := by
    cases hmax : (r.map Prod.fst).max? with
    | none => exact absurd (List.map_eq_nil_iff.mp (List.max?_eq_none_iff.mp hmax)) hne
    | some top => exact ⟨top, rfl⟩
  obtain ⟨hmem, hle⟩ := List.max?_eq_some_iff.mp htop
  exact ⟨top, hmem, hle⟩

/-- The last index of an array is the greatest assigned index or that of the bound. -/
theorem size_eq_max {top : Nat} (h : ofTable t bound = .ok slots)
    (htop : IsGreatest {i | i ∈ slots.assigned.map Prod.fst} top) :
    slots.size = max top ((boundIndex? t bound).getD 0) + 1 := by
  rw [(assigned_of_ofTable h).1] at htop
  have hgreatest : greatest? t bound = some (max top ((boundIndex? t bound).getD 0)) := by
    rw [greatest?, List.max?_eq_some_iff]
    constructor
    · cases hbound : boundIndex? t bound with
      | none =>
        rw [Option.getD_none, Nat.max_zero]
        exact List.mem_append_left _ htop.1
      | some i =>
        rw [Option.getD_some, Option.toList_some]
        rcases max_choice top i with hmax | hmax
        · rw [hmax]
          exact List.mem_append_left _ htop.1
        · rw [hmax]
          exact List.mem_append_right _ (List.mem_singleton_self i)
    · intro i hi
      rcases List.mem_append.mp hi with hi | hi
      · exact (htop.2 hi).trans (le_max_left _ _)
      · rw [Option.mem_toList] at hi
        rw [hi]
        exact le_max_right _ _
  rw [size_of_ofTable h, hgreatest]
  rfl

/-- The column is as wide as the greatest assigned index or as the index of the bound. -/
theorem indexWidth_of_ofTable {top : Nat} (h : ofTable t bound = .ok slots)
    (htop : IsGreatest {i | i ∈ slots.assigned.map Prod.fst} top) :
    slots.indexWidth = max (digits top) ((boundIndex? t bound).elim 0 digits) := by
  have hlast : slots.indexWidth = digits (max top ((boundIndex? t bound).getD 0)) := by
    rw [indexWidth, size_eq_max h htop, Nat.add_sub_cancel]
    rfl
  rw [hlast, digits_mono.map_max]
  cases boundIndex? t bound with
  | none =>
    -- no index has fewer digits than zero
    have hzero : digits 0 ≤ digits top := digits_mono (Nat.zero_le top)
    rw [Option.getD_none, Option.elim_none, max_eq_left hzero, Nat.max_zero]
  | some i => rfl

/-- **The index column of a flat array.**  Where anything is assigned, every index is set to the
right of a column that has the digits of the greatest assigned index or of the index of the bound,
whichever are more.  So some index fills the column exactly when the bound does not have more digits
than every assigned index. -/
theorem render_index_column (h : render t comment arrayName bound = .ok text)
    (hne : assignedIn t bound ≠ []) :
    ∃ (size width top : Nat) (lines : List Text),
      text = opening comment arrayName size ++ (lines.flatten ++ closing)
        ∧ List.Forall₂ (SetRight arrayName width) (assignedIn t bound) lines
        ∧ IsGreatest {i | i ∈ (assignedIn t bound).map Prod.fst} top
        ∧ width = max (digits top) ((boundIndex? t bound).elim 0 digits)
        ∧ ((∃ i ∈ (assignedIn t bound).map Prod.fst, digits i = width)
          ↔ ∀ i, boundIndex? t bound = some i → digits i ≤ digits top) := by
  obtain ⟨slots, hslots, htext⟩ := exists_of_render h
  obtain ⟨hassigned, -⟩ := assigned_of_ofTable hslots
  obtain ⟨top, htop⟩ := exists_isGreatest_key hne
  have hwidth := indexWidth_of_ofTable hslots (hassigned.symm ▸ htop)
  refine ⟨slots.size, slots.indexWidth, top,
    (assignedIn t bound).map fun p => assignment arrayName slots.indexWidth p.1 p.2, ?_, ?_, htop,
    hwidth, ?_⟩
  · rw [← htext, Slots.text, hassigned, List.append_assoc]
    rfl
  · rw [List.forall₂_map_right_iff, List.forall₂_same]
    intro p hp
    refine setRight_assignment ?_
    have hle : p.1 ≤ top := htop.2 (List.mem_map_of_mem hp)
    calc digits p.1 ≤ digits top := digits_mono hle
      _ ≤ slots.indexWidth := hwidth ▸ le_max_left _ _
  · rw [hwidth]
    constructor
    · rintro ⟨j, hj, hfills⟩ i hi
      rw [hi, Option.elim_some] at hfills
      calc digits i ≤ max (digits top) (digits i) := le_max_right _ _
        _ = digits j := hfills.symm
        _ ≤ digits top := digits_mono (htop.2 hj)
    · intro hbound
      refine ⟨top, htop.1, (max_eq_left ?_).symm⟩
      cases hi : boundIndex? t bound with
      | none => exact Nat.zero_le _
      | some i => exact hbound i hi

/-- A bound with as many digits as the greatest assigned index, which stands below an entry that
has no slot. -/
theorem render_index_column_of_keycodes :
    let t := Table.build [] [⟨"A".toList, "7".toList⟩, ⟨"N".toList, "-1000".toList⟩,
      ⟨"B".toList, "0x71".toList⟩, ⟨"MAX".toList, "767".toList⟩]
    let bound : Option Text := some "MAX".toList
    assignedIn t bound ≠ [] ∧ ∃ text, render t "made".toList "keys".toList bound = .ok text
      ∧ ∃ (size width : Nat) (lines : List Text),
        text = opening "made".toList "keys".toList size ++ (lines.flatten ++ closing)
          ∧ List.Forall₂ (SetRight "keys".toList width) (assignedIn t bound) lines
          ∧ ∃ i ∈ (assignedIn t bound).map Prod.fst, digits i = width := by
  intro t bound
  have hmade : ∃ text, render t "made".toList "keys".toList bound = .ok text := ⟨_, rfl⟩
  obtain ⟨text, h⟩ := hmade
  have hne : assignedIn t bound ≠ [] := by decide
  obtain ⟨size, width, top, lines, htext, hlines, htop, -, htight⟩ := render_index_column h hne
  have hbound : boundIndex? t bound = some 767 := by decide
  have hmem : 113 ∈ (assignedIn t bound).map Prod.fst := by decide
  refine ⟨hne, text, h, size, width, lines, htext, hlines, htight.mpr fun i hi => ?_⟩
  obtain rfl : 767 = i := Option.some.inj (hbound.symm.trans hi)
  calc digits 767 = digits 113 := by decide
    _ ≤ digits top := digits_mono (htop.2 hmem)

/-- A bound with more digits than the one index that is assigned: two blanks stand in front of the
index, and the text is not the one with a column of its width. -/
theorem render_index_column_loose :
    let t := Table.build [] [⟨"A".toList, "1".toList⟩, ⟨"MAX".toList, "100".toList⟩]
    let bound : Option Text := some "MAX".toList
    let a : Entry := ⟨"A".toList, 1, "1".toList, []⟩
    let text := opening "made".toList "keys".toList 101
      ++ ("    keys[   1 ] = \"A\";\n".toList ++ closing)
    render t "made".toList "keys".toList bound = .ok text ∧ assignedIn t bound = [(1, a)]
      ∧ ∀ (size : Nat) (lines : List Text),
        List.Forall₂ (SetRight "keys".toList (digits 1)) (assignedIn t bound) lines →
          text ≠ opening "made".toList "keys".toList size ++ (lines.flatten ++ closing) := by
  intro t bound a text
  have hassigned : assignedIn t bound = [(1, a)] := by decide
  refine ⟨by decide, hassigned, fun size lines hlines htext => ?_⟩
  rw [hassigned, List.forall₂_cons_left_iff] at hlines
  obtain ⟨line, rest, ⟨blanks, hblanks, hline⟩, hrest, rfl⟩ := hlines
  obtain rfl := List.forall₂_nil_left_iff.mp hrest
  obtain rfl : blanks = 0 := Nat.add_eq_right.mp hblanks
  -- the line with the narrow column would have to stand at the end of the text
  have hsuffix : [line].flatten ++ closing <:+ text := htext ▸ List.suffix_append _ _
  rw [hline] at hsuffix
  exact absurd hsuffix (by decide)

end Slots

end NameTables
