import Mathlib.Data.List.TakeWhile
import NameTables.Text.Blank

/-!
# Blanks at the ends of a text

Trimming does not see blanks that are put in front of a text or behind it.

## Main statements

* `Text.trim_append_blanks` — blanks at either end make no difference to the trimmed text.
-/

namespace NameTables

namespace Text

theorem trimStart_of_forall {w : Text} (hw : ∀ c ∈ w, isBlank c) : trimStart w = [] :=
  List.dropWhile_eq_nil_iff.mpr hw

theorem trimStart_blanks_append {w : Text} (hw : ∀ c ∈ w, isBlank c) (s : Text) :
    trimStart (w ++ s) = trimStart s :=
  List.dropWhile_append_of_pos hw

theorem trimEnd_append_blanks {w : Text} (hw : ∀ c ∈ w, isBlank c) (s : Text) :
    trimEnd (s ++ w) = trimEnd s := by
  have hw' : ∀ c ∈ w.reverse, isBlank c := fun c hc => hw c (List.mem_reverse.mp hc)
  rw [trimEnd, List.reverse_append, List.dropWhile_append_of_pos hw']
  rfl

/-- Blanks at either end make no difference to the trimmed text. -/
theorem trim_append_blanks {w w' : Text} (hw : ∀ c ∈ w, isBlank c) (hw' : ∀ c ∈ w', isBlank c)
    (s : Text) : trim (w ++ s ++ w') = trim s := by
  rw [trim, List.append_assoc, trimStart_blanks_append hw]
  by_cases hs : trimStart s = []
  · -- nothing but blanks
    have hall : ∀ c ∈ s, isBlank c := List.dropWhile_eq_nil_iff.mp hs
    rw [trimStart_blanks_append hall, trimStart_of_forall hw', trim, hs]
  · have hsplit : trimStart (s ++ w') = trimStart s ++ w' := by
      rw [trimStart, List.dropWhile_append, if_neg]
      · rfl
      · rwa [List.isEmpty_iff]
    rw [hsplit, trimEnd_append_blanks hw']
    rfl

end Text

end NameTables
