import NameTables.Proofs.Literal.Grammar
import NameTables.Proofs.Text.Width

/-!
# Literals in machine words

The value of a literal is computed in signed 64-bit words, from a text that is cut at octets.  A
number that leaves the word while digits are appended means that there is no value.  Nothing else
may go wrong: the cut behind a leading zero is where a character begins, and the magnitude that is
negated has the negative of it in the word, since only the least number of the word has not.

## Main definitions

* `Text.fromOctet?` — a text from an octet on, where a character has to begin.
* `Literal.signed?` — the numbers that a signed word holds.
* `Literal.computed?` — the value as it is computed, or nothing where a step fails.

## Main statements

* `Literal.appendInWords?_eq` — digits are appended until the number leaves the word.
* `Literal.computed?_eq` — no step fails.
* `Literal.value?_grammar` — which texts have a value, which one, and that it is computed.
-/

namespace NameTables

/-! ### Octets -/

namespace Text

/-- The text from an octet on, where a character has to begin. -/
def fromOctet? : Nat → Text → Option Text
  | 0, s => some s
  | _ + 1, [] => none
  | n + 1, c :: s => if c.utf8Size ≤ n + 1 then fromOctet? (n + 1 - c.utf8Size) s else none

end Text

namespace Literal

variable {base m n : Nat} {s : Text}

/-! ### The mark in octets -/

/-- The radix that the beginning of the digits marks, and the digits after the mark.  A zero that
marks octal digits is cut off as an octet. -/
def radixInOctets? (digits : Text) : Option (Radix × Text) :=
  match (Text.dropLead? ['0', 'x'] digits).or (Text.dropLead? ['0', 'X'] digits) with
  | some body => some (.hexadecimal, body)
  | none =>
    match (Text.dropLead? ['0', 'b'] digits).or (Text.dropLead? ['0', 'B'] digits) with
    | some body => some (.binary, body)
    | none =>
      if 1 < Text.byteLength digits ∧ digits.head? = some '0' then
        (Text.fromOctet? 1 digits).map (.octal, ·)
      else some (.decimal, digits)

/-- The cut is where a character begins. -/
theorem radixInOctets?_eq (digits : Text) : radixInOctets? digits = some (radixOf digits) := by
  have hmark : ∀ a c body, Text.dropLead? ['0', a] ('0' :: c :: body)
      = if a = c then some body else none := by
    intro a c body
    rw [Text.dropLead?_cons_cons, if_pos rfl, Text.dropLead?_cons_cons, Text.dropLead?_nil]
  unfold radixOf
  split
  · rfl
  · rfl
  · rfl
  · rfl
  · next c body hx hX hb hB =>
    have hlong : 1 < Text.byteLength ('0' :: c :: body) := by
      have hpos := c.utf8Size_pos
      have hzero : '0'.utf8Size = 1 := rfl
      rw [Text.byteLength_cons, Text.byteLength_cons, hzero]
      omega
    have hcut : Text.fromOctet? 1 ('0' :: c :: body) = some (c :: body) := rfl
    have hnone : ∀ a, c ≠ a → Text.dropLead? ['0', a] ('0' :: c :: body) = none :=
      fun a ha => (hmark a c body).trans (if_neg (Ne.symm ha))
    rw [radixInOctets?, hnone 'x' hx, hnone 'X' hX, hnone 'b' hb, hnone 'B' hB]
    exact (if_pos ⟨hlong, rfl⟩).trans (congrArg _ hcut)
  · next hoctal =>
    have hnone : ∀ a, Text.dropLead? ['0', a] digits = none := fun a =>
      Option.eq_none_iff_forall_ne_some.mpr fun body hbody =>
        hoctal a body (Text.dropLead?_eq_some_iff.mp hbody)
    -- a zero with nothing behind it is one octet
    have hshort : ¬ (1 < Text.byteLength digits ∧ digits.head? = some '0') := by
      rintro ⟨hlong, hhead⟩
      obtain ⟨rest, rfl⟩ := List.head?_eq_some_iff.mp hhead
      cases rest with
      | nil => exact absurd hlong (by decide)
      | cons c body => exact hoctal c body rfl
    simp only [radixInOctets?, hnone, Option.or_none, if_neg hshort]

/-! ### Signed words -/

/-- The signed word that holds a number. -/
def signed? (n : Int) : Option Int := if -2 ^ 63 ≤ n ∧ n < 2 ^ 63 then some n else none

/-- Append digits to the number read so far, as long as it is one of a signed word. -/
def appendInWords? (base : Nat) : Int → Text → Option Int
  | n, [] => some n
  | n, c :: s =>
    (digitIn? base c).bind fun d =>
      (signed? (n * base)).bind fun shifted =>
        (signed? (shifted + d)).bind fun next => appendInWords? base next s

theorem signed?_natCast (n : Nat) :
    signed? n = if n ≤ greatest then some (n : Int) else none := by
  rw [signed?, greatest]
  by_cases hn : n ≤ 9223372036854775807
  · rw [if_pos hn, if_pos (by omega)]
  · rw [if_neg hn, if_neg (by omega)]

/-- A magnitude has its negative in the word. -/
theorem signed?_neg_natCast (hn : n ≤ greatest) : signed? (-(n : Int)) = some (-(n : Int)) := by
  rw [greatest] at hn
  rw [signed?, if_pos (by omega)]

theorem isSome_of_appendDigits? (h : appendDigits? base n s = some m) :
    ∀ c ∈ s, (digitIn? base c).isSome := by
  induction s generalizing n with
  | nil => exact nofun
  | cons c s ih =>
    rw [appendDigits?_cons, Option.bind_eq_some_iff] at h
    obtain ⟨d, hd, hrest⟩ := h
    exact List.forall_mem_cons.mpr ⟨Option.isSome_of_mem hd, ih hrest⟩

/-- A number does not become less when digits are appended to it. -/
theorem le_of_appendDigits? (h : appendDigits? base n s = some m) : n ≤ m := by
  induction s generalizing n with
  | nil => exact (Option.some.inj h).le
  | cons c s ih =>
    rw [appendDigits?_cons, Option.bind_eq_some_iff] at h
    obtain ⟨d, hd, hrest⟩ := h
    have hlt : d < base := of_decide_eq_true (Option.filter_eq_some_iff.mp hd).2
    calc n ≤ n * base := Nat.le_mul_of_pos_right n (by omega)
      _ ≤ n * base + d := Nat.le_add_right _ _
      _ ≤ m := ih hrest

/-- Digits are appended in signed words as long as the number does not exceed the greatest
magnitude, and once it does it stays so. -/
theorem appendInWords?_eq (hn : n ≤ greatest) : appendInWords? base n s
    = ((appendDigits? base n s).filter (· ≤ greatest)).map fun (m : Nat) => (m : Int) := by
  induction s generalizing n with
  | nil => simp [appendInWords?, Option.filter, hn]
  | cons c s ih =>
    rw [appendInWords?, appendDigits?_cons]
    cases digitIn? base c with
    | none => rfl
    | some d =>
      have hshift : (n : Int) * base = (n * base : Nat) := (Nat.cast_mul n base).symm
      have hadd : ((n * base : Nat) : Int) + d = (n * base + d : Nat) := (Nat.cast_add _ d).symm
      rw [Option.bind_some, Option.bind_some, hshift, signed?_natCast]
      by_cases hle : n * base + d ≤ greatest
      · rw [if_pos (by omega), Option.bind_some, hadd, signed?_natCast, if_pos hle,
          Option.bind_some, ih hle]
      · have hnone : (appendDigits? base (n * base + d) s).filter (· ≤ greatest) = none := by
          rw [Option.filter_eq_none_iff]
          intro m hm
          have hle' := le_of_appendDigits? hm
          exact fun hgreatest => hle (hle'.trans (of_decide_eq_true hgreatest))
        rw [hnone, Option.map_none]
        split_ifs
        · rw [Option.bind_some, hadd, signed?_natCast, if_neg hle, Option.bind_none]
        · rfl

/-! ### The computation -/

/-- The magnitude as it is computed from digits with a mark. -/
def magnitudeInWords? (digits : Text) : Option (Option Int) :=
  if digits.isEmpty then some none
  else
    (radixInOctets? digits).map fun (radix, body) =>
      if body.isEmpty || !body.all (fun c => (digitIn? radix.base c).isSome) then none
      else appendInWords? radix.base 0 body

/-- The value as it is computed, in signed words and from a text that is cut at octets: there is
nothing where a cut is inside a character or a number that is negated has no negative. -/
def computed? (s : Text) : Option (Option Int) :=
  let (negative, rest) := splitSign s
  (magnitudeInWords? (dropSuffix rest)).bind fun
    | none => some none
    | some n => if negative then (signed? (-n)).map some else some (some n)

theorem magnitude?_eq_none
    (h : (s.isEmpty || !s.all fun c => (digitIn? base c).isSome) = true) :
    magnitude? base s = none := by
  rw [Option.eq_none_iff_forall_ne_some]
  intro m hm
  rw [magnitude?] at hm
  split_ifs at hm with hempty
  rw [Bool.or_eq_true, Bool.not_eq_true', ← Bool.not_eq_true, List.all_eq_true] at h
  exact h.elim hempty fun hall => hall (isSome_of_appendDigits? hm)

/-- The mark is found without a fault, and the digits are appended in words. -/
theorem magnitudeInWords?_eq (s : Text) : magnitudeInWords? (dropSuffix s)
    = some ((unsigned? s).map fun (m : Nat) => (m : Int)) := by
  rcases hradix : radixOf (dropSuffix s) with ⟨radix, body⟩
  have hunsigned : unsigned? s = (magnitude? radix.base body).filter (· ≤ greatest) := by
    rw [unsigned?, hradix]
  rw [magnitudeInWords?, hunsigned]
  split_ifs with hdigits
  · rw [List.isEmpty_iff.mp hdigits] at hradix
    cases hradix
    rfl
  · rw [radixInOctets?_eq, hradix, Option.map_some]
    dsimp only
    split_ifs with hbody
    · rw [magnitude?_eq_none hbody]
      rfl
    · rw [Bool.or_eq_true, not_or] at hbody
      rw [magnitude?, if_neg hbody.1, ← appendInWords?_eq (Nat.zero_le greatest), Nat.cast_zero]

/-- **No step fails.**  No cut is inside a character, and what is negated has a negative. -/
theorem computed?_eq (s : Text) : computed? s = some (value? s) := by
  rw [computed?, value?]
  rcases splitSign s with ⟨negative, rest⟩
  dsimp only
  rw [magnitudeInWords?_eq, Option.bind_some]
  cases hm : unsigned? rest with
  | none => rfl
  | some m =>
    have hle : m ≤ greatest := of_decide_eq_true (Option.filter_eq_some_iff.mp hm).2
    cases negative with
    | false => rfl
    | true =>
      simp only [Option.map_some, if_true, signed?_neg_natCast hle]

/-- **The form of a literal.**  The texts with a value are those that are put together from a sign,
digits with the mark of their radix, and suffix letters, with a magnitude of at most 63 bits; and
the value is computed without a cut inside a character or a negative outside the word. -/
theorem value?_grammar (s : Text) :
    (∀ v, value? s = some v ↔ Spells s v) ∧ computed? s = some (value? s) :=
  ⟨fun _ => value?_eq_some_iff, computed?_eq s⟩

-- a suffix letter behind a bare mark, a zero on its own, a sign, a digit of no octal, two signs
example : ["0bL", "0u", "-0b1L", "09", "--5"].map (fun s => value? s.toList)
    = [none, some 0, some (-1), none, none] := by decide

end Literal

end NameTables
