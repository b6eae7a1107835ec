import Mathlib.Data.List.TakeWhile
import Mathlib.Tactic.SplitIfs
import NameTables.Literal
import NameTables.Proofs.Definition.Line

/-!
# The characters of a literal

A text that has a value is made of a sign, a radix mark, digits and suffix letters, so apart from
minus signs it holds name characters only.

## Main statements

* `Literal.chars_of_value?` — the characters of a literal.
-/

namespace NameTables

namespace Literal

open Definition

/-! ### Digits -/

theorem isNameChar_of_digitOf? {c : Char} {n : Nat} (h : digitOf? c = some n) :
    isNameChar c = true := by
  rw [isNameChar_iff]
  unfold digitOf? at h
  split_ifs at h with hdigit hlower hupper
  · exact .inr (.inr (.inl (by simpa [Char.le_def, UInt32.le_iff_toNat_le] using hdigit)))
  · exact .inl (by simpa [Char.le_def, UInt32.le_iff_toNat_le] using hlower)
  · exact .inr (.inl (by simpa [Char.le_def, UInt32.le_iff_toNat_le] using hupper))

theorem isNameChar_of_digitIn? {base : Nat} {c : Char} {n : Nat} (h : digitIn? base c = some n) :
    isNameChar c = true :=
  isNameChar_of_digitOf? (Option.filter_eq_some_iff.mp h).1

theorem chars_of_appendDigits? {base n m : Nat} {s : Text} (h : appendDigits? base n s = some m) :
    ∀ c ∈ s, isNameChar c := by
  induction s generalizing n with
  | nil => simp
  | cons c s ih =>
    rw [appendDigits?_cons] at h
    obtain ⟨d, hd, hrest⟩ := Option.bind_eq_some_iff.mp h
    intro x hx
    rcases List.mem_cons.mp hx with rfl | hx
    · exact isNameChar_of_digitIn? hd
    · exact ih hrest x hx

theorem chars_of_magnitude? {base m : Nat} {s : Text} (h : magnitude? base s = some m) :
    s ≠ [] ∧ ∀ c ∈ s, isNameChar c := by
  unfold magnitude? at h
  split_ifs at h with hs
  exact ⟨by simpa using hs, chars_of_appendDigits? h⟩

/-! ### Sign, mark and suffix -/

theorem isNameChar_of_isSuffixLetter {c : Char} (h : isSuffixLetter c = true) :
    isNameChar c = true := by
  simp only [isSuffixLetter, Bool.or_eq_true, beq_iff_eq] at h
  rcases h with ((rfl | rfl) | rfl) | rfl <;> rfl

/-- A text is what is left without the suffix, and the suffix. -/
theorem exists_suffix (s : Text) :
    ∃ suffix, s = dropSuffix s ++ suffix ∧ ∀ c ∈ suffix, isSuffixLetter c := by
  refine ⟨(s.reverse.takeWhile isSuffixLetter).reverse, ?_, fun c hc => ?_⟩
  · rw [dropSuffix, ← List.reverse_append, List.takeWhile_append_dropWhile, List.reverse_reverse]
  · exact List.mem_takeWhile_imp (List.mem_reverse.mp hc)

/-- The digits of a literal are a radix mark and what follows it. -/
theorem exists_mark (digits : Text) :
    ∃ mark, digits = mark ++ (radixOf digits).2 ∧ ∀ c ∈ mark, isNameChar c := by
  unfold radixOf
  split
  · exact ⟨['0', 'x'], rfl, List.all_eq_true.mp rfl⟩
  · exact ⟨['0', 'X'], rfl, List.all_eq_true.mp rfl⟩
  · exact ⟨['0', 'b'], rfl, List.all_eq_true.mp rfl⟩
  · exact ⟨['0', 'B'], rfl, List.all_eq_true.mp rfl⟩
  · exact ⟨['0'], rfl, List.all_eq_true.mp rfl⟩
  · exact ⟨[], rfl, List.all_eq_true.mp rfl⟩

theorem chars_of_unsigned? {s : Text} {m : Nat} (h : unsigned? s = some m) :
    s ≠ [] ∧ ∀ c ∈ s, isNameChar c := by
  obtain ⟨hmagnitude, -⟩ := Option.filter_eq_some_iff.mp h
  obtain ⟨hne, hbody⟩ := chars_of_magnitude? hmagnitude
  obtain ⟨suffix, hs, hsuffix⟩ := exists_suffix s
  obtain ⟨mark, hdigits, hmark⟩ := exists_mark (dropSuffix s)
  have hwhole : s = mark ++ (radixOf (dropSuffix s)).2 ++ suffix := hdigits ▸ hs
  refine ⟨fun hnil => ?_, fun c hc => ?_⟩
  · rw [hnil] at hne
    exact hne rfl
  · rw [hwhole] at hc
    rcases List.mem_append.mp hc with hc | hc
    · rcases List.mem_append.mp hc with hc | hc
      · exact hmark c hc
      · exact hbody c hc
    · exact isNameChar_of_isSuffixLetter (hsuffix c hc)

theorem exists_sign (s : Text) : s = (splitSign s).2 ∨ s = '-' :: (splitSign s).2 := by
  unfold splitSign
  split
  · exact .inr rfl
  · exact .inl rfl

/-! ### The literal -/

/-- The characters of a literal are minus signs and name characters. -/
theorem chars_of_value? {s : Text} {v : Int} (h : value? s = some v) :
    ∀ c ∈ s, c = '-' ∨ isNameChar c := by
  obtain ⟨m, hm, -⟩ := Option.map_eq_some_iff.mp h
  obtain ⟨-, hchars⟩ := chars_of_unsigned? hm
  intro c hc
  rcases exists_sign s with hs | hs
  · rw [hs] at hc
    exact .inr (hchars c hc)
  · rw [hs] at hc
    exact (List.mem_cons.mp hc).imp id (hchars c)

end Literal

end NameTables
