import Mathlib.Algebra.Group.Nat.Defs
import Mathlib.Data.List.Basic
import Mathlib.Tactic.SplitIfs
import NameTables.Proofs.Text.Cutting
import NameTables.Text.Utf8

/-!
# Reading UTF-8 in parts

The octets of a character begin with one that no character goes on with, so a byte string may be
cut in front of any octet that begins a character: an unfinished character in front of the cut is
malformed whether or not the octets behind it are there.  Line feeds are such octets, and nothing
else is read as a line feed, so cutting into lines and reading may change places.

## Main definitions

* `Utf8.Pending.WellFormed` — what is known of an unfinished character.
* `Utf8.IsContinuation`, `Utf8.Fresh` — octets inside a character, and byte strings that do not
  begin with one.

## Main statements

* `Bytes.decodeLossy_append` — reading in two parts.
* `Bytes.decodeLossy_encode` — reading undoes writing.
* `Bytes.map_decodeLossy_splitEnded` — reading line by line is reading the whole and cutting it
  into lines.
-/

namespace NameTables

namespace Utf8

/-- An octet that stands inside a character but never at its beginning. -/
def IsContinuation (b : Nat) : Prop := 0x80 ≤ b ∧ b ≤ 0xBF

/-- A byte string that does not go on with a character begun before it. -/
def Fresh (bs : Bytes) : Prop := ∀ b ∈ bs.head?, ¬ IsContinuation b.toNat

/-- What is known of an unfinished character: only continuation octets may come next, and what
it is finished to is no ASCII character. -/
structure Pending.WellFormed (p : Pending) : Prop where
  /-- No octet below the continuation octets may come next. -/
  low_ge : 0x80 ≤ p.low
  /-- No octet above the continuation octets may come next. -/
  high_le : p.high ≤ 0xBF
  /-- The least code point it may be finished to is no ASCII character. -/
  wide : 0x80 ≤ (p.bits * 64 + (p.low - 0x80)) * 64 ^ p.later

/-! ### One octet -/

theorem first_wellFormed (b : Nat) : ∀ p ∈ (first b).2, p.WellFormed := by
  intro p hp
  unfold first at hp
  split_ifs at hp <;> simp only [Option.mem_def, Option.some.injEq, reduceCtorEq] at hp <;>
    subst hp <;> constructor <;> simp <;> omega

/-- The octet that finishes a character. -/
theorem step_last {p : Pending} {b : Nat} (hl : p.later = 0) (hb : p.low ≤ b ∧ b ≤ p.high) :
    step (some p) b = ([some (Char.ofNat (p.bits * 64 + (b - 0x80)))], none) := by
  simp only [step, if_pos hb, hl]

/-- An octet that a character goes on with. -/
theorem step_next {p : Pending} {b later : Nat} (hl : p.later = later + 1)
    (hb : p.low ≤ b ∧ b ≤ p.high) :
    step (some p) b = ([], some ⟨p.bits * 64 + (b - 0x80), later, 0x80, 0xBF⟩) := by
  simp only [step, if_pos hb, hl]

/-- Any other octet ends the character as malformed and is read as the beginning of the next. -/
theorem step_some_of_not_mem {p : Pending} {b : Nat} (hb : ¬ (p.low ≤ b ∧ b ≤ p.high)) :
    step (some p) b = (none :: (first b).1, (first b).2) := by
  simp only [step, if_neg hb]

theorem step_wellFormed {s : Option Pending} (hs : ∀ p ∈ s, p.WellFormed) (b : Nat) :
    ∀ p ∈ (step s b).2, p.WellFormed := by
  cases s with
  | none => exact first_wellFormed b
  | some p =>
    have hp := hs p rfl
    by_cases hb : p.low ≤ b ∧ b ≤ p.high
    · cases hl : p.later with
      | zero =>
        rw [step_last hl hb]
        simp
      | succ later =>
        rw [step_next hl hb]
        intro q hq
        rw [Option.mem_some_iff] at hq
        subst hq
        refine ⟨Nat.le_refl _, Nat.le_refl _, ?_⟩
        -- the bits read so far are no less than those of the least octet
        have hbits : p.bits * 64 + (p.low - 0x80) ≤ p.bits * 64 + (b - 0x80) := by omega
        have hwide := hp.wide
        rw [hl, Nat.pow_succ', ← Nat.mul_assoc] at hwide
        rw [Nat.sub_self, Nat.add_zero]
        exact Nat.le_trans hwide (Nat.mul_le_mul_right _ (Nat.mul_le_mul_right _ hbits))
    · rw [step_some_of_not_mem hb]
      exact first_wellFormed b

/-! ### A byte string -/

/-- A character unfinished where the next begins is malformed. -/
theorem scanFrom_of_fresh {s : Option Pending} (hs : ∀ p ∈ s, p.WellFormed) {bs : Bytes}
    (hbs : Fresh bs) : scanFrom s bs = scanFrom s [] ++ scan bs := by
  cases s with
  | none => rfl
  | some p =>
    cases bs with
    | nil => rfl
    | cons b bs =>
      have hp := hs p rfl
      have hb : ¬ (p.low ≤ b.toNat ∧ b.toNat ≤ p.high) := fun h =>
        hbs b rfl ⟨Nat.le_trans hp.low_ge h.1, Nat.le_trans h.2 hp.high_le⟩
      rw [scanFrom_cons, step_some_of_not_mem hb]
      rfl

/-- **Reading in two parts**: a byte string may be cut in front of what begins a character. -/
theorem scanFrom_append {s : Option Pending} (hs : ∀ p ∈ s, p.WellFormed) (l : Bytes)
    {bs : Bytes} (hbs : Fresh bs) : scanFrom s (l ++ bs) = scanFrom s l ++ scan bs := by
  induction l generalizing s with
  | nil => exact scanFrom_of_fresh hs hbs
  | cons b l ih =>
    rw [List.cons_append, scanFrom_cons, scanFrom_cons, ih (step_wellFormed hs _),
      List.append_assoc]

theorem scan_append (l : Bytes) {bs : Bytes} (hbs : Fresh bs) :
    scan (l ++ bs) = scan l ++ scan bs :=
  scanFrom_append (by simp) l hbs

/-- A character in progress is never passed over in silence. -/
theorem scanFrom_some_ne_nil (p : Pending) (bs : Bytes) : scanFrom (some p) bs ≠ [] := by
  induction bs generalizing p with
  | nil => simp
  | cons b bs ih =>
    rw [scanFrom_cons]
    by_cases hb : p.low ≤ b.toNat ∧ b.toNat ≤ p.high
    · cases hl : p.later with
      | zero =>
        rw [step_last hl hb]
        simp
      | succ later =>
        rw [step_next hl hb]
        exact ih _
    · rw [step_some_of_not_mem hb]
      simp

/-- An octet yields something or begins a character. -/
theorem exists_pending_of_first_eq_nil {b : Nat} (h : (first b).1 = []) :
    ∃ p, (first b).2 = some p := by
  unfold first at h ⊢
  split_ifs at h ⊢ <;> exact ⟨_, rfl⟩

theorem scan_eq_nil_iff {bs : Bytes} : scan bs = [] ↔ bs = [] := by
  refine ⟨fun h => ?_, fun h => by rw [h]; rfl⟩
  cases bs with
  | nil => rfl
  | cons b bs =>
    exfalso
    rw [scan, scanFrom_cons, List.append_eq_nil_iff] at h
    obtain ⟨p, hp⟩ := exists_pending_of_first_eq_nil h.1
    have hrest : scanFrom (first b.toNat).2 bs = [] := h.2
    rw [hp] at hrest
    exact scanFrom_some_ne_nil p bs hrest

/-! ### The octets of a character -/

theorem first_of_le_ascii {b : Nat} (hb : b ≤ 0x7F) : first b = ([some (Char.ofNat b)], none) := by
  rw [first, if_pos hb]

theorem first_of_two {b : Nat} (hb : 0xC2 ≤ b ∧ b ≤ 0xDF) :
    first b = ([], some ⟨b - 0xC0, 0, 0x80, 0xBF⟩) := by
  rw [first, if_neg (by omega), if_pos hb]

/-- The beginning of a character of three octets, and the octet it may go on with unless the
character is too small for three octets or a surrogate. -/
theorem first_of_three {b c : Nat} (hb : 0xE0 ≤ b ∧ b ≤ 0xEF) (hc : IsContinuation c)
    (hsmall : 0x20 ≤ (b - 0xE0) * 64 + (c - 0x80))
    (hsurrogate : (b - 0xE0) * 64 + (c - 0x80) < 0x360 ∨ 0x380 ≤ (b - 0xE0) * 64 + (c - 0x80)) :
    ∃ p, first b = ([], some p) ∧ p.bits = b - 0xE0 ∧ p.later = 1 ∧ p.low ≤ c ∧ c ≤ p.high := by
  obtain ⟨hc, hc'⟩ := hc
  unfold first
  split_ifs <;> first | omega | exact ⟨_, rfl, by simp; omega⟩

/-- The beginning of a character of four octets, and the octet it may go on with unless the
character is too small for four octets or no code point. -/
theorem first_of_four {b c : Nat} (hb : 0xF0 ≤ b ∧ b ≤ 0xF4) (hc : IsContinuation c)
    (hsmall : 0x10 ≤ (b - 0xF0) * 64 + (c - 0x80)) (hgreat : (b - 0xF0) * 64 + (c - 0x80) < 0x110) :
    ∃ p, first b = ([], some p) ∧ p.bits = b - 0xF0 ∧ p.later = 2 ∧ p.low ≤ c ∧ c ≤ p.high := by
  obtain ⟨hc, hc'⟩ := hc
  unfold first
  split_ifs <;> first | omega | exact ⟨_, rfl, by simp; omega⟩

theorem toNat_ofNat_octet {n : Nat} (hn : n < 0x100) : (UInt8.ofNat n).toNat = n := by
  rw [UInt8.toNat_ofNat']
  exact Nat.mod_eq_of_lt hn

theorem scan_cons (b : UInt8) (bs : Bytes) :
    scan (b :: bs) = (first b.toNat).1 ++ scanFrom (first b.toNat).2 bs := rfl

/-- The octets of a character are read as that character. -/
theorem scan_encodeChar_append (c : Char) (bs : Bytes) :
    scan (String.utf8EncodeChar c ++ bs) = some c :: scan bs := by
  have hvalid : c.val.toNat < 0xD800 ∨ 0xDFFF < c.val.toNat ∧ c.val.toNat < 0x110000 := c.valid
  have hc : ∀ n, n = c.val.toNat → Char.ofNat n = c := by
    intro n hn
    rw [hn]
    exact Char.ofNat_toNat c
  unfold String.utf8EncodeChar
  generalize c.val.toNat = v at hvalid hc ⊢
  dsimp only
  split_ifs with h1 h2 h3 <;> simp only [List.cons_append, List.nil_append]
  · rw [scan_cons, toNat_ofNat_octet (by omega), first_of_le_ascii h1, hc _ rfl]
    rfl
  · rw [scan_cons, toNat_ofNat_octet (by omega), first_of_two (by omega), scanFrom_cons,
      toNat_ofNat_octet (by omega), step_last rfl (by dsimp only; omega),
      hc _ (by dsimp only; omega)]
    rfl
  · obtain ⟨p, hp, hbits, hlater, hlow, hhigh⟩ :=
      first_of_three (b := v / 4096 % 16 + 0xE0) (c := v / 64 % 64 + 0x80) (by omega)
        ⟨by omega, by omega⟩ (by omega) (by omega)
    rw [scan_cons, toNat_ofNat_octet (by omega), hp, scanFrom_cons, toNat_ofNat_octet (by omega),
      step_next hlater ⟨hlow, hhigh⟩, scanFrom_cons, toNat_ofNat_octet (by omega),
      step_last rfl (by dsimp only; omega), hc _ (by dsimp only; omega)]
    rfl
  · obtain ⟨p, hp, hbits, hlater, hlow, hhigh⟩ :=
      first_of_four (b := v / 262144 % 8 + 0xF0) (c := v / 4096 % 64 + 0x80) (by omega)
        ⟨by omega, by omega⟩ (by omega) (by omega)
    rw [scan_cons, toNat_ofNat_octet (by omega), hp, scanFrom_cons, toNat_ofNat_octet (by omega),
      step_next hlater ⟨hlow, hhigh⟩, scanFrom_cons, toNat_ofNat_octet (by omega),
      step_next rfl (by dsimp only; omega), scanFrom_cons, toNat_ofNat_octet (by omega),
      step_last rfl (by dsimp only; omega), hc _ (by dsimp only; omega)]
    rfl

/-- What is written for a text begins with the beginning of a character. -/
theorem fresh_encode (t : Text) : Fresh (Text.encode t) := by
  cases t with
  | nil => simp [Fresh]
  | cons c t =>
    intro b hb hcont
    obtain ⟨hlow, hhigh⟩ := hcont
    rw [Text.encode, List.flatMap_cons] at hb
    unfold String.utf8EncodeChar at hb
    generalize c.val.toNat = v at hb
    dsimp only at hb
    split_ifs at hb <;>
      simp only [List.cons_append, List.head?_cons, Option.mem_def, Option.some.injEq] at hb <;>
      rw [← hb, toNat_ofNat_octet (by omega)] at hlow hhigh <;> omega

/-! ### Line feeds -/

theorem fresh_newline_cons (bs : Bytes) : Fresh (10 :: bs) := by
  intro b hb hcont
  rw [List.head?_cons, Option.mem_some_iff] at hb
  subst hb
  exact absurd hcont.1 (by decide)

theorem ofNat_eq_newline {n : Nat} (h : Char.ofNat n = '\n') : n = 10 := by
  by_cases hn : n.isValidChar
  · rw [Char.ofNat, dif_pos hn] at h
    exact congrArg Char.toNat h
  · rw [Char.ofNat, dif_neg hn] at h
    exact absurd h (by decide)

/-- Only the octet of a line feed is read as a line feed. -/
theorem newline_not_mem_step {s : Option Pending} (hs : ∀ p ∈ s, p.WellFormed) {b : Nat}
    (hb : b ≠ 10) : some '\n' ∉ (step s b).1 := by
  have hfirst : some '\n' ∉ (first b).1 := by
    unfold first
    split_ifs <;> simp
    intro h
    exact hb (ofNat_eq_newline h.symm)
  cases s with
  | none => exact hfirst
  | some p =>
    have hp := hs p rfl
    by_cases hmem : p.low ≤ b ∧ b ≤ p.high
    · cases hl : p.later with
      | zero =>
        rw [step_last hl hmem]
        intro h
        rw [List.mem_singleton, Option.some.injEq] at h
        have hbits := ofNat_eq_newline h.symm
        have hwide := hp.wide
        rw [hl, Nat.pow_zero, Nat.mul_one] at hwide
        omega
      | succ later =>
        rw [step_next hl hmem]
        simp
    · rw [step_some_of_not_mem hmem]
      simpa using hfirst

theorem newline_not_mem_scanFrom {s : Option Pending} (hs : ∀ p ∈ s, p.WellFormed) {bs : Bytes}
    (hbs : (10 : UInt8) ∉ bs) : some '\n' ∉ scanFrom s bs := by
  induction bs generalizing s with
  | nil => cases s <;> simp
  | cons b bs ih =>
    rw [List.mem_cons, not_or] at hbs
    have hb : b.toNat ≠ 10 := fun h => hbs.1 (UInt8.toNat_inj.mp h.symm)
    rw [scanFrom_cons, List.mem_append, not_or]
    exact ⟨newline_not_mem_step hs hb, ih (step_wellFormed hs _) hbs.2⟩

end Utf8

namespace Bytes

open Utf8

@[simp] theorem decodeLossy_nil : decodeLossy [] = [] := rfl

/-- **Reading in two parts**: a byte string may be cut in front of what begins a character. -/
theorem decodeLossy_append (l : Bytes) {bs : Bytes} (hbs : Fresh bs) :
    decodeLossy (l ++ bs) = decodeLossy l ++ decodeLossy bs := by
  rw [decodeLossy, scan_append l hbs, List.map_append]
  rfl

theorem decodeLossy_eq_nil_iff {bs : Bytes} : decodeLossy bs = [] ↔ bs = [] := by
  rw [decodeLossy, List.map_eq_nil_iff, scan_eq_nil_iff]

/-- A byte string that is well formed throughout has no malformed place to be replaced. -/
theorem decodeLossy_of_decode? {bs : Bytes} {s : Text} (h : bs.decode? = some s) :
    decodeLossy bs = s := by
  have hwhole : ∀ found : List (Option Char), found.all Option.isSome →
      found.map (·.getD replacement) = found.filterMap id := by
    intro found
    induction found with
    | nil => exact fun _ => rfl
    | cons c found ih => cases c <;> simp_all
  unfold decode? at h
  dsimp only at h
  split_ifs at h with hall
  rw [decodeLossy, hwhole _ hall]
  exact Option.some.inj h

theorem decodeLossy_encode_append (t : Text) (bs : Bytes) :
    decodeLossy (Text.encode t ++ bs) = t ++ decodeLossy bs := by
  induction t with
  | nil => rfl
  | cons c t ih =>
    rw [Text.encode, List.flatMap_cons, List.append_assoc, decodeLossy, scan_encodeChar_append,
      List.map_cons]
    exact congrArg (c :: ·) ih

/-- Reading undoes writing. -/
theorem decodeLossy_encode (t : Text) : decodeLossy (Text.encode t) = t := by
  simpa using decodeLossy_encode_append t []

/-- A line feed is read as a line feed, whatever stands in front of it. -/
theorem decodeLossy_newline_cons (l bs : Bytes) :
    decodeLossy (l ++ 10 :: bs) = decodeLossy l ++ '\n' :: decodeLossy bs := by
  rw [decodeLossy_append l (fresh_newline_cons bs)]
  rfl

theorem newline_not_mem_decodeLossy {bs : Bytes} (hbs : (10 : UInt8) ∉ bs) :
    '\n' ∉ decodeLossy bs := by
  intro h
  rw [decodeLossy, List.mem_map] at h
  obtain ⟨found, hfound, hc⟩ := h
  cases found with
  | none => exact absurd hc (by decide)
  | some c =>
    rw [Option.getD_some] at hc
    subst hc
    exact newline_not_mem_scanFrom (by simp) hbs hfound

/-- The octet of a line feed is written for a line feed only. -/
theorem newline_mem_of_mem_encode {t : Text} (h : (10 : UInt8) ∈ Text.encode t) : '\n' ∈ t := by
  obtain ⟨l, r, hlr⟩ := List.append_of_mem h
  have hread := decodeLossy_encode t
  rw [hlr, decodeLossy_newline_cons] at hread
  rw [← hread]
  exact List.mem_append_right _ List.mem_cons_self

/-- Reading the pieces between line feeds is reading the whole and cutting it there. -/
theorem map_decodeLossy_splitAt (bs : Bytes) :
    (splitAt (· == 10) bs).map decodeLossy = splitAt (· == '\n') (decodeLossy bs) := by
  induction bs using cut_induction (10 : UInt8) with
  | piece l hl =>
    rw [splitAt_of_not_mem hl, splitAt_of_not_mem (newline_not_mem_decodeLossy hl),
      List.map_singleton]
  | cut l r hl ih =>
    rw [splitAt_append_cons_self, decodeLossy_newline_cons, splitAt_append_cons_self,
      List.map_append, ih, splitAt_of_not_mem hl,
      splitAt_of_not_mem (newline_not_mem_decodeLossy hl), List.map_singleton]

/-- **Reading line by line** is reading the whole and cutting it into lines. -/
theorem map_decodeLossy_splitEnded (bs : Bytes) :
    (splitEnded (· == 10) bs).map decodeLossy = splitEnded (· == '\n') (decodeLossy bs) :=
  map_splitEnded_of_map_splitAt (map_decodeLossy_splitAt bs) fun _ => decodeLossy_eq_nil_iff

end Bytes

end NameTables
