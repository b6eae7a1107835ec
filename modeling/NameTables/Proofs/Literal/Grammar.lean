import Mathlib.Data.List.Forall2
import Mathlib.Data.Nat.Digits.Defs
import Mathlib.Tactic.IntervalCases
import Mathlib.Tactic.Ring
import NameTables.Proofs.Literal.Characters

/-!
# The form of a literal

A literal is put together from a sign, a radix mark with digits, and suffix letters.  It can be put
together so in one way: a digit of the radices in use is no suffix letter, so the suffix is told
from the digits, and a mark is told from digits by its letter, or by the zero in front of more of
them.

## Main definitions

* `Literal.IsDigit`, `Literal.Denotes` — the values of digits and of runs of them.
* `Literal.Marks` — the spellings of digits with the mark of their radix.
* `Literal.Spells` — the spellings of a value.

## Main statements

* `Literal.magnitude?_eq_some_iff` — what is read from digits is the number they denote.
* `Literal.radixOf_eq` — a mark is read as what it stands for.
* `Literal.value?_eq_some_iff` — the spellings of a value are the texts that have it.
-/

namespace NameTables

namespace Literal

variable {base d m n : Nat} {c : Char} {s digits : Text} {radix : Radix} {v : Int}

/-! ### Digits -/

/-- The character is the digit of this value; a letter may be small or capital. -/
def IsDigit (c : Char) (d : Nat) : Prop :=
  "0123456789abcdef".toList[d]? = some c ∨ "0123456789ABCDEF".toList[d]? = some c

/-- The digits denote the number in a base. -/
def Denotes (base : Nat) (digits : Text) (m : Nat) : Prop :=
  ∃ ds, List.Forall₂ (fun c d => d < base ∧ IsDigit c d) digits ds
    ∧ m = Nat.ofDigits base ds.reverse

theorem Radix.base_le (radix : Radix) : radix.base ≤ 16 := by
  cases radix <;> decide

/-- A character that is not in front of another is that one and so many on. -/
theorem eq_ofNat_of_le {first : Char} (h : first ≤ c) :
    c = Char.ofNat (first.toNat + (c.toNat - first.toNat)) := by
  have hle : first.toNat ≤ c.toNat := h
  rw [Nat.add_sub_cancel' hle, Char.ofNat_toNat]

theorem isDigit_of_digitOf? (h : digitOf? c = some d) (hd : d < 16) : IsDigit c d := by
  unfold digitOf? at h
  split_ifs at h with hdigit hlower hupper
  · obtain rfl := Option.some.inj h
    rw [eq_ofNat_of_le hdigit.1]
    have hlt : c.toNat - '0'.toNat < 10 := by
      have hle : c.toNat ≤ '9'.toNat := hdigit.2
      have hnine : '9'.toNat = '0'.toNat + 9 := rfl
      omega
    generalize c.toNat - '0'.toNat = k at hlt ⊢
    interval_cases k <;> exact .inl rfl
  · obtain rfl := Option.some.inj h
    have hlt : c.toNat - 'a'.toNat < 6 := by omega
    rw [eq_ofNat_of_le hlower.1]
    generalize c.toNat - 'a'.toNat = k at hlt ⊢
    interval_cases k <;> exact .inl rfl
  · obtain rfl := Option.some.inj h
    have hlt : c.toNat - 'A'.toNat < 6 := by omega
    rw [eq_ofNat_of_le hupper.1]
    generalize c.toNat - 'A'.toNat = k at hlt ⊢
    interval_cases k <;> exact .inr rfl

theorem digitOf?_of_isDigit (h : IsDigit c d) (hd : d < 16) : digitOf? c = some d := by
  rcases h with h | h
  · interval_cases d <;> (cases h; rfl)
  · interval_cases d <;> (cases h; rfl)

theorem digitIn?_eq_some_iff (hbase : base ≤ 16) :
    digitIn? base c = some d ↔ d < base ∧ IsDigit c d := by
  rw [digitIn?, Option.filter_eq_some_iff, decide_eq_true_eq]
  constructor
  · rintro ⟨hdigit, hd⟩
    exact ⟨hd, isDigit_of_digitOf? hdigit (by omega)⟩
  · rintro ⟨hd, hdigit⟩
    exact ⟨digitOf?_of_isDigit hdigit (by omega), hd⟩

/-- Appending digits shifts the number read so far and adds what they denote. -/
theorem appendDigits?_eq_some_iff (hbase : base ≤ 16) :
    appendDigits? base n s = some m
      ↔ ∃ ds, List.Forall₂ (fun c d => d < base ∧ IsDigit c d) s ds
        ∧ m = n * base ^ s.length + Nat.ofDigits base ds.reverse := by
  induction s generalizing n with
  | nil => simp [List.forall₂_nil_left_iff, eq_comm]
  | cons c s ih =>
    -- the first digit stands in front of as many as there are behind it
    have hshift : ∀ {d : Nat} {ds : List Nat}, ds.length = s.length →
        (n * base + d) * base ^ s.length + Nat.ofDigits base ds.reverse
          = n * base ^ (c :: s).length + Nat.ofDigits base (d :: ds).reverse := by
      intro d ds hlength
      rw [List.reverse_cons, Nat.ofDigits_append, Nat.ofDigits_singleton, List.length_reverse,
        hlength, List.length_cons, pow_succ]
      ring
    rw [appendDigits?_cons, Option.bind_eq_some_iff]
    constructor
    · rintro ⟨d, hd, hrest⟩
      obtain ⟨ds, hds, rfl⟩ := ih.mp hrest
      exact ⟨d :: ds, .cons ((digitIn?_eq_some_iff hbase).mp hd) hds, hshift hds.length_eq.symm⟩
    · rintro ⟨_, hall, rfl⟩
      cases hall with
      | @cons _ d _ ds hd hds =>
        exact ⟨d, (digitIn?_eq_some_iff hbase).mpr hd,
          ih.mpr ⟨ds, hds, (hshift hds.length_eq.symm).symm⟩⟩

/-- What is read from digits is the number that they denote. -/
theorem magnitude?_eq_some_iff (hbase : base ≤ 16) :
    magnitude? base digits = some m ↔ digits ≠ [] ∧ Denotes base digits m := by
  have hread : appendDigits? base 0 digits = some m ↔ Denotes base digits m := by
    rw [appendDigits?_eq_some_iff hbase]
    simp only [Nat.zero_mul, Nat.zero_add]
    rfl
  rw [magnitude?, ← hread]
  by_cases hnil : digits = [] <;> simp [hnil]

/-! ### Marks -/

/-- The spellings of digits with the mark of their radix. -/
inductive Marks : Text → Radix → Text → Prop
  /-- A zero and an `x` stand in front of hexadecimal digits. -/
  | hexadecimal {mark : Char} {digits : Text} (hmark : mark = 'x' ∨ mark = 'X')
    (hne : digits ≠ []) : Marks ('0' :: mark :: digits) .hexadecimal digits
  /-- A zero and a `b` stand in front of binary digits. -/
  | binary {mark : Char} {digits : Text} (hmark : mark = 'b' ∨ mark = 'B')
    (hne : digits ≠ []) : Marks ('0' :: mark :: digits) .binary digits
  /-- A zero stands in front of octal digits. -/
  | octal {digits : Text} (hne : digits ≠ []) : Marks ('0' :: digits) .octal digits
  /-- A digit on its own is decimal. -/
  | digit (c : Char) : Marks [c] .decimal [c]
  /-- Digits of which the first is no zero are decimal. -/
  | decimal {digits : Text} (hne : digits ≠ []) (hlead : digits.head? ≠ some '0') :
    Marks digits .decimal digits

theorem Marks.ne_nil (h : Marks s radix digits) : digits ≠ [] := by
  cases h with
  | hexadecimal _ hne => exact hne
  | binary _ hne => exact hne
  | octal hne => exact hne
  | digit c => exact List.cons_ne_nil _ _
  | decimal hne => exact hne

/-- What marked digits end in are the digits. -/
theorem Marks.isSuffix (h : Marks s radix digits) : digits <:+ s := by
  cases h with
  | hexadecimal => exact ⟨['0', _], rfl⟩
  | binary => exact ⟨['0', _], rfl⟩
  | octal => exact ⟨['0'], rfl⟩
  | digit => exact List.suffix_refl _
  | decimal => exact List.suffix_refl _

/-- The mark that is read is one of those that there are. -/
theorem marks_radixOf (h : (radixOf s).2 ≠ []) : Marks s (radixOf s).1 (radixOf s).2 := by
  revert h
  unfold radixOf
  split
  · exact .hexadecimal (.inl rfl)
  · exact .hexadecimal (.inr rfl)
  · exact .binary (.inl rfl)
  · exact .binary (.inr rfl)
  · exact .octal
  · next hoctal =>
    intro hne
    obtain ⟨c, rest, rfl⟩ := List.exists_cons_of_ne_nil hne
    cases rest with
    | nil => exact .digit c
    | cons b rest =>
      refine .decimal hne fun hlead => ?_
      cases hlead
      exact hoctal b rest rfl

/-- A mark is read as what it stands for. -/
theorem radixOf_eq (h : Marks s radix digits) (hdigits : Denotes radix.base digits m) :
    radixOf s = (radix, digits) := by
  cases h with
  | hexadecimal hmark => rcases hmark with rfl | rfl <;> rfl
  | binary hmark => rcases hmark with rfl | rfl <;> rfl
  | octal hne =>
    obtain ⟨ds, hds, -⟩ := hdigits
    cases hds with
    | nil => exact absurd rfl hne
    | @cons c d rest _ hd =>
      -- an octal digit is none of the letters that mark a radix
      obtain ⟨hlt, hc⟩ := hd
      rw [Radix.base] at hlt
      rcases hc with hc | hc <;> interval_cases d <;> (cases hc; rfl)
  | digit => simp [radixOf]
  | decimal hne hlead =>
    obtain ⟨c, rest, rfl⟩ := List.exists_cons_of_ne_nil hne
    have hc : c ≠ '0' := fun hc => hlead (congrArg some hc)
    unfold radixOf
    split <;> simp_all

/-! ### The suffix -/

/-- A digit of the radices in use is no suffix letter. -/
theorem isSuffixLetter_of_isDigit (h : IsDigit c d) (hd : d < 16) : isSuffixLetter c = false := by
  rcases h with h | h <;> interval_cases d <;> (cases h; rfl)

/-- Only the suffix letters that a text ends with are taken off. -/
theorem dropSuffix_append {suffix : Text} (hsuffix : ∀ c ∈ suffix, isSuffixLetter c)
    (hlast : ∀ c ∈ s.getLast?, isSuffixLetter c = false) : dropSuffix (s ++ suffix) = s := by
  have hsuffix' : ∀ c ∈ suffix.reverse, isSuffixLetter c :=
    fun c hc => hsuffix c (List.mem_reverse.mp hc)
  have hstop : s.reverse.dropWhile isSuffixLetter = s.reverse := by
    rw [← List.head?_reverse] at hlast
    cases hrev : s.reverse with
    | nil => rfl
    | cons c rest =>
      rw [hrev] at hlast
      exact List.dropWhile_cons_of_neg (by simp [hlast c rfl])
  rw [dropSuffix, List.reverse_append, List.dropWhile_append_of_pos hsuffix', hstop,
    List.reverse_reverse]

/-- No digit of a number is a suffix letter. -/
theorem isSuffixLetter_of_denotes (hbase : base ≤ 16) (h : Denotes base digits m) :
    ∀ c ∈ digits, isSuffixLetter c = false := by
  obtain ⟨ds, hds, -⟩ := h
  induction hds with
  | nil => exact nofun
  | cons hd _ ih =>
    exact List.forall_mem_cons.mpr ⟨isSuffixLetter_of_isDigit hd.2 (by omega), ih⟩

/-! ### Literals -/

/-- The text is put together from a sign, marked digits that denote a magnitude of at most 63 bits,
and suffix letters; the value is the magnitude with the sign. -/
def Spells (s : Text) (v : Int) : Prop :=
  ∃ (sign core suffix : Text) (radix : Radix) (digits : Text) (m : Nat),
    s = sign ++ (core ++ suffix)
      ∧ (sign = [] ∧ v = (m : Int) ∨ sign = ['-'] ∧ v = -(m : Int))
      ∧ (∀ c ∈ suffix, c = 'u' ∨ c = 'U' ∨ c = 'l' ∨ c = 'L')
      ∧ Marks core radix digits ∧ Denotes radix.base digits m ∧ m ≤ 2 ^ 63 - 1

theorem isSuffixLetter_iff : isSuffixLetter c ↔ c = 'u' ∨ c = 'U' ∨ c = 'l' ∨ c = 'L' := by
  simp [isSuffixLetter, or_assoc]

/-- The magnitude of marked digits with suffix letters is the number that they denote, unless it has
more than 63 bits. -/
theorem unsigned?_append {core suffix : Text} (hsuffix : ∀ c ∈ suffix, isSuffixLetter c)
    (hmarks : Marks core radix digits) (hdigits : Denotes radix.base digits m) :
    unsigned? (core ++ suffix) = if m ≤ greatest then some m else none := by
  obtain ⟨mark, rfl⟩ := hmarks.isSuffix
  have hlast : ∀ c ∈ (mark ++ digits).getLast?, isSuffixLetter c = false := by
    rw [List.getLast?_append_of_ne_nil _ hmarks.ne_nil]
    exact fun c hc => isSuffixLetter_of_denotes radix.base_le hdigits c (List.mem_of_getLast? hc)
  have hread : magnitude? radix.base digits = some m :=
    (magnitude?_eq_some_iff radix.base_le).mpr ⟨hmarks.ne_nil, hdigits⟩
  rw [unsigned?, dropSuffix_append hsuffix hlast, radixOf_eq hmarks hdigits]
  dsimp only
  rw [hread, Option.filter_some]
  simp only [decide_eq_true_eq]

/-- The magnitudes of a text without a sign. -/
theorem unsigned?_eq_some_iff :
    unsigned? s = some m
      ↔ ∃ core suffix radix digits, s = core ++ suffix ∧ (∀ c ∈ suffix, isSuffixLetter c)
        ∧ Marks core radix digits ∧ Denotes radix.base digits m ∧ m ≤ 2 ^ 63 - 1 := by
  constructor
  · intro h
    obtain ⟨hread, hle⟩ := Option.filter_eq_some_iff.mp h
    obtain ⟨hne, hdigits⟩ := (magnitude?_eq_some_iff (Radix.base_le _)).mp hread
    obtain ⟨suffix, hs, hsuffix⟩ := exists_suffix s
    exact ⟨_, suffix, _, _, hs, hsuffix, marks_radixOf hne, hdigits, of_decide_eq_true hle⟩
  · rintro ⟨core, suffix, radix, digits, rfl, hsuffix, hmarks, hdigits, hle⟩
    rw [unsigned?_append hsuffix hmarks hdigits]
    exact if_pos hle

theorem value?_minus_cons (s : Text) :
    value? ('-' :: s) = (unsigned? s).map fun (m : Nat) => -(m : Int) := rfl

theorem value?_of_head? (hs : s.head? ≠ some '-') :
    value? s = (unsigned? s).map fun (m : Nat) => (m : Int) := by
  have hsplit : splitSign s = (false, s) := by
    unfold splitSign
    split
    · exact absurd rfl hs
    · rfl
  rw [value?, hsplit]
  rfl

/-- A value is the magnitude of what follows the sign, with the sign. -/
theorem value?_eq_some_iff_unsigned :
    value? s = some v
      ↔ ∃ (sign rest : Text) (m : Nat), s = sign ++ rest
        ∧ (sign = [] ∧ v = (m : Int) ∨ sign = ['-'] ∧ v = -(m : Int))
        ∧ unsigned? rest = some m := by
  constructor
  · intro h
    by_cases hs : s.head? = some '-'
    · obtain ⟨rest, rfl⟩ := List.head?_eq_some_iff.mp hs
      rw [value?_minus_cons, Option.map_eq_some_iff] at h
      obtain ⟨m, hm, rfl⟩ := h
      exact ⟨['-'], rest, m, rfl, .inr ⟨rfl, rfl⟩, hm⟩
    · rw [value?_of_head? hs, Option.map_eq_some_iff] at h
      obtain ⟨m, hm, rfl⟩ := h
      exact ⟨[], s, m, rfl, .inl ⟨rfl, rfl⟩, hm⟩
  · rintro ⟨sign, rest, m, rfl, ⟨rfl, rfl⟩ | ⟨rfl, rfl⟩, hm⟩
    · -- a text that has a magnitude does not begin with a sign
      have hhead : rest.head? ≠ some '-' := fun hhead =>
        absurd ((chars_of_unsigned? hm).2 _ (List.mem_of_mem_head? hhead)) (by decide)
      rw [List.nil_append, value?_of_head? hhead, hm]
      rfl
    · rw [List.singleton_append, value?_minus_cons, hm]
      rfl

/-- The spellings of a value are the texts that have it. -/
theorem value?_eq_some_iff : value? s = some v ↔ Spells s v := by
  rw [value?_eq_some_iff_unsigned]
  constructor
  · rintro ⟨sign, rest, m, rfl, hsign, hm⟩
    obtain ⟨core, suffix, radix, digits, rfl, hsuffix, hcore⟩ := unsigned?_eq_some_iff.mp hm
    exact ⟨sign, core, suffix, radix, digits, m, rfl, hsign,
      fun c hc => isSuffixLetter_iff.mp (hsuffix c hc), hcore⟩
  · rintro ⟨sign, core, suffix, radix, digits, m, rfl, hsign, hsuffix, hcore⟩
    refine ⟨sign, core ++ suffix, m, rfl, hsign, unsigned?_eq_some_iff.mpr ?_⟩
    exact ⟨core, suffix, radix, digits, rfl, fun c hc => isSuffixLetter_iff.mpr (hsuffix c hc),
      hcore⟩

end Literal

end NameTables
