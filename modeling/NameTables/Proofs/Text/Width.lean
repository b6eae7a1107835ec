import NameTables.Text.Basic

/-!
# The width of a text

A text is as wide in octets as in characters if it is ASCII.

## Main definitions

* `Text.IsAscii` — every character is one octet.

## Main statements

* `Text.byteLength_eq_length` — the octets and the characters of an ASCII text.
-/

namespace NameTables

namespace Text

theorem byteLength_eq (s : Text) : byteLength s = total (s.map Char.utf8Size) := by
  have hfold : ∀ n, s.foldl (fun n c => n + c.utf8Size) n = n + total (s.map Char.utf8Size) := by
    induction s with
    | nil => exact fun n => rfl
    | cons c s ih =>
      intro n
      rw [List.foldl_cons, ih, List.map_cons, total_cons, Nat.add_assoc]
  rw [byteLength, hfold, Nat.zero_add]

@[simp] theorem byteLength_cons (c : Char) (s : Text) :
    byteLength (c :: s) = c.utf8Size + byteLength s := by
  rw [byteLength_eq, byteLength_eq, List.map_cons, total_cons]

/-- Every character of the text is an ASCII character. -/
def IsAscii (s : Text) : Prop := ∀ c ∈ s, c.toNat < 128

instance (s : Text) : Decidable (IsAscii s) := List.decidableBAll (fun c : Char => c.toNat < 128) s

theorem IsAscii.append {s t : Text} (hs : IsAscii s) (ht : IsAscii t) : IsAscii (s ++ t) := by
  intro c hc
  rcases List.mem_append.mp hc with hc | hc
  · exact hs c hc
  · exact ht c hc

theorem isAscii_replicate (n : Nat) {c : Char} (hc : c.toNat < 128) :
    IsAscii (List.replicate n c) := by
  intro d hd
  rwa [List.eq_of_mem_replicate hd]

/-- An ASCII text has as many octets as characters. -/
theorem byteLength_eq_length {s : Text} (hs : IsAscii s) : byteLength s = s.length := by
  induction s with
  | nil => rfl
  | cons c s ih =>
    have hc : c.utf8Size = 1 := by
      rw [Char.utf8Size_eq_one_iff, UInt32.le_iff_toNat_le]
      exact Nat.le_of_lt_succ (hs c List.mem_cons_self)
    rw [byteLength_cons, hc, ih fun d hd => hs d (List.mem_cons_of_mem c hd), List.length_cons,
      Nat.add_comm]

end Text

end NameTables
