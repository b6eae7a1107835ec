import NameTables.Proofs.Literal.Grammar

/-!
# Writing whole numbers

A whole number is written with a minus sign exactly if it is negative, and then its magnitude in one
of the four radices.  What is written so is read back as long as the magnitude has 63 bits at most.
A signed 64-bit word holds one number more, the least one, whose magnitude has 64 bits: it can be
written like any other, and no spelling of it is read.

## Main definitions

* `Literal.Writes` — the spellings of a whole number in a radix.
* `Literal.write` — the shortest of them.

## Main statements

* `Literal.denotes_toDigits` — the digits of a number denote it.
* `Literal.writes_write` — every whole number can be written in every radix.
* `Literal.value?_of_writes` — what is read from a spelling.
* `Literal.value?_word` — the numbers of a signed word written and read back.
* `Literal.value?_least` — the least of them is not read.
-/

namespace NameTables

namespace Literal

variable {base m n : Nat} {radix : Radix} {v : Int} {s : Text}

/-- The text writes the whole number in the radix: a minus sign if it is negative, the digits of the
magnitude with their mark, which may have zeros in front where there is a mark, and suffix
letters. -/
def Writes (radix : Radix) (v : Int) (s : Text) : Prop :=
  ∃ core suffix digits, s = (if v < 0 then ['-'] else []) ++ (core ++ suffix)
    ∧ Marks core radix digits ∧ Denotes radix.base digits v.natAbs
    ∧ ∀ c ∈ suffix, c = 'u' ∨ c = 'U' ∨ c = 'l' ∨ c = 'L'

/-! ### Every number can be written -/

/-- The mark of a radix, with a small letter. -/
def Radix.mark : Radix → Text
  | .binary => "0b".toList
  | .octal => "0".toList
  | .decimal => []
  | .hexadecimal => "0x".toList

/-- The spelling of a whole number with small letters and no digit or letter that could be left
out. -/
def write (radix : Radix) (v : Int) : Text :=
  (if v < 0 then ['-'] else []) ++ (radix.mark ++ Nat.toDigits radix.base v.natAbs)

theorem Radix.one_lt_base (radix : Radix) : 1 < radix.base := by
  cases radix <;> decide

theorem isDigit_digitChar (hn : n < 16) : IsDigit n.digitChar n := by
  interval_cases n <;> exact .inl rfl

/-- One more digit shifts the number that is denoted. -/
theorem Denotes.concat {digits : Text} {c : Char} (h : Denotes base digits m) (hn : n < base)
    (hc : IsDigit c n) : Denotes base (digits ++ [c]) (base * m + n) := by
  obtain ⟨ds, hds, rfl⟩ := h
  refine ⟨ds ++ [n], List.rel_append hds (.cons ⟨hn, hc⟩ .nil), ?_⟩
  rw [List.reverse_append, List.reverse_singleton, List.singleton_append, Nat.ofDigits_cons,
    Nat.add_comm]

/-- The digits of a number denote it. -/
theorem denotes_toDigits (hone : 1 < base) (hbase : base ≤ 16) (n : Nat) :
    Denotes base (Nat.toDigits base n) n := by
  induction n using Nat.strongRecOn with
  | ind n ih =>
    rw [Nat.toDigits_eq_if hone]
    split_ifs with hlt
    · refine ⟨[n], .cons ⟨hlt, isDigit_digitChar (hlt.trans_le hbase)⟩ .nil, ?_⟩
      rw [List.reverse_singleton, Nat.ofDigits_singleton]
    · have hmod : n % base < base := Nat.mod_lt n (by omega)
      have hless : n / base < n := Nat.div_lt_self (by omega) hone
      have hlast := (ih (n / base) hless).concat hmod (isDigit_digitChar (hmod.trans_le hbase))
      rwa [Nat.div_add_mod] at hlast

/-- Only the digits of zero begin with a zero. -/
theorem head?_toDigits_ne (hone : 1 < base) (hn : n ≠ 0) :
    (Nat.toDigits base n).head? ≠ some '0' := by
  induction n using Nat.strongRecOn with
  | ind n ih =>
    rw [Nat.toDigits_eq_if hone]
    split_ifs with hlt
    · simpa using hn
    · have hless : n / base < n := Nat.div_lt_self (by omega) hone
      have hpos : 0 < n / base := Nat.div_pos (by omega) (by omega)
      rw [List.head?_append_of_ne_nil _ Nat.toDigits_ne_nil]
      exact ih (n / base) hless hpos.ne'

/-- The digits of a number stand behind the mark of each radix. -/
theorem marks_toDigits (radix : Radix) (n : Nat) :
    Marks (radix.mark ++ Nat.toDigits radix.base n) radix (Nat.toDigits radix.base n) := by
  have hne : Nat.toDigits radix.base n ≠ [] := Nat.toDigits_ne_nil
  cases radix with
  | binary => exact .binary (.inl rfl) hne
  | octal => exact .octal hne
  | hexadecimal => exact .hexadecimal (.inl rfl) hne
  | decimal =>
    by_cases hn : n = 0
    · rw [hn]
      exact .digit '0'
    · exact .decimal hne (head?_toDigits_ne (by decide) hn)

/-- Every whole number can be written in every radix. -/
theorem writes_write (radix : Radix) (v : Int) : Writes radix v (write radix v) := by
  refine ⟨_, [], _, ?_, marks_toDigits radix v.natAbs,
    denotes_toDigits radix.one_lt_base radix.base_le v.natAbs, nofun⟩
  rw [List.append_nil, write]

/-! ### What is read -/

/-- Marked digits do not begin with a sign. -/
theorem Marks.head?_ne_minus {digits : Text} (h : Marks s radix digits)
    (hdigits : Denotes radix.base digits m) : s.head? ≠ some '-' := by
  have hfirst : digits.head? ≠ some '-' := by
    obtain ⟨ds, hds, -⟩ := hdigits
    cases hds with
    | nil => nofun
    | @cons c d _ _ hd =>
      intro hminus
      obtain rfl : c = '-' := Option.some.inj hminus
      have hd16 : d < 16 := hd.1.trans_le radix.base_le
      rcases hd.2 with hc | hc <;> interval_cases d <;> cases hc
  cases h with
  | hexadecimal | binary | octal => exact fun hminus => absurd (Option.some.inj hminus) (by decide)
  | digit | decimal => exact hfirst

/-- A spelling is read as its number if the magnitude has 63 bits at most, and not at all
otherwise. -/
theorem value?_of_writes (h : Writes radix v s) :
    value? s = if v.natAbs ≤ greatest then some v else none := by
  obtain ⟨core, suffix, digits, rfl, hmarks, hdigits, hsuffix⟩ := h
  have hunsigned : unsigned? (core ++ suffix)
      = if v.natAbs ≤ greatest then some v.natAbs else none :=
    unsigned?_append (fun c hc => isSuffixLetter_iff.mpr (hsuffix c hc)) hmarks hdigits
  by_cases hneg : v < 0
  · have hvalue : -(v.natAbs : Int) = v := by omega
    rw [if_pos hneg, List.singleton_append, value?_minus_cons, hunsigned]
    split_ifs
    · rw [Option.map_some, hvalue]
    · rfl
  · have hvalue : (v.natAbs : Int) = v := by omega
    have hcore : core ≠ [] := by
      rintro rfl
      exact hmarks.ne_nil (List.suffix_nil.mp hmarks.isSuffix)
    have hhead : (core ++ suffix).head? ≠ some '-' := by
      rw [List.head?_append_of_ne_nil _ hcore]
      exact hmarks.head?_ne_minus hdigits
    rw [if_neg hneg, List.nil_append, value?_of_head? hhead, hunsigned]
    split_ifs
    · rw [Option.map_some, hvalue]
    · rfl

/-- **The numbers of a signed 64-bit word, written and read back.**  Each can be written in each
radix, and every spelling of it is read as the number, except that no spelling of the least of them
is read at all. -/
theorem value?_word (hlow : -2 ^ 63 ≤ v) (hhigh : v < 2 ^ 63) (radix : Radix) :
    (∃ s, Writes radix v s)
      ∧ ∀ s, Writes radix v s → value? s = if v = -2 ^ 63 then none else some v := by
  refine ⟨⟨_, writes_write radix v⟩, fun s hs => ?_⟩
  rw [value?_of_writes hs]
  have hleast : v.natAbs ≤ greatest ↔ ¬ v = -2 ^ 63 := by
    rw [greatest]
    omega
  simp only [hleast, ite_not]

/-- The number after the least one, in hexadecimal digits of both sizes behind a zero, with a suffix
letter. -/
theorem value?_word_after_least :
    let v : Int := -2 ^ 63 + 1
    let s : Text := "-0X07fffFFFFffffFFFFl".toList
    Writes .hexadecimal v s ∧ -2 ^ 63 ≤ v ∧ v < 2 ^ 63 ∧ value? s = some v := by
  intro v s
  have hlow : -2 ^ 63 ≤ v := by decide
  have hhigh : v < 2 ^ 63 := by decide
  have hread : magnitude? 16 "07fffFFFFffffFFFF".toList = some v.natAbs := by decide
  have hsuffix : ∀ c ∈ ['l'], c = 'u' ∨ c = 'U' ∨ c = 'l' ∨ c = 'L' :=
    List.forall_mem_singleton.mpr (.inr (.inr (.inl rfl)))
  have hwrites : Writes .hexadecimal v s :=
    ⟨"0X07fffFFFFffffFFFF".toList, ['l'], _, rfl, .hexadecimal (.inr rfl) (List.cons_ne_nil _ _),
      ((magnitude?_eq_some_iff le_rfl).mp hread).2, hsuffix⟩
  refine ⟨hwrites, hlow, hhigh, ?_⟩
  rw [(value?_word hlow hhigh .hexadecimal).2 s hwrites, if_neg (by decide)]

/-- The least number of the word is written in every radix, and none of the spellings is read. -/
theorem value?_least :
    let least : Int := -2 ^ 63
    (∀ radix, Writes radix least (write radix least) ∧ value? (write radix least) = none)
      ∧ write .decimal least = "-9223372036854775808".toList
      ∧ write .hexadecimal least = "-0x8000000000000000".toList := by
  refine ⟨fun radix => ⟨writes_write radix _, ?_⟩, by decide, by decide⟩
  cases radix <;> decide

end Literal

end NameTables
