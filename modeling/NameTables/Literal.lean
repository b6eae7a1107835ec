import NameTables.Text.Basic

/-!
# Integer literals

The integer literals of C that a macro may stand for: an optional minus sign, digits in one of
four radices and any run of the suffix letters `u`, `U`, `l`, `L`.  The magnitude has to fit a
signed 64-bit word, so the least 64-bit value has no literal.

## Main definitions

* `Literal.Radix` — the four radices, told by how the digits begin.
* `Literal.magnitude?` — the number that a run of digits denotes.
* `Literal.value?` — the value of a literal, or `none` for any other text.
-/

namespace NameTables

namespace Literal

/-- The radix of the digits of a literal. -/
inductive Radix
  /-- Marked by `0b` or `0B`. -/
  | binary
  /-- Marked by a leading zero. -/
  | octal
  /-- Marked by nothing. -/
  | decimal
  /-- Marked by `0x` or `0X`. -/
  | hexadecimal
  deriving DecidableEq, Repr

/-- The number of digits of a radix. -/
def Radix.base : Radix → Nat
  | .binary => 2
  | .octal => 8
  | .decimal => 10
  | .hexadecimal => 16

/-- The value of an ASCII digit or letter as a digit. -/
def digitOf? (c : Char) : Option Nat :=
  if '0' ≤ c ∧ c ≤ '9' then some (c.toNat - '0'.toNat)
  else if 'a' ≤ c ∧ c ≤ 'z' then some (c.toNat - 'a'.toNat + 10)
  else if 'A' ≤ c ∧ c ≤ 'Z' then some (c.toNat - 'A'.toNat + 10)
  else none

/-- The value of a digit in a radix. -/
def digitIn? (base : Nat) (c : Char) : Option Nat :=
  (digitOf? c).filter (· < base)

/-- Append digits to the number read so far. -/
def appendDigits? (base : Nat) : Nat → Text → Option Nat
  | n, [] => some n
  | n, c :: s => (digitIn? base c).bind fun d => appendDigits? base (n * base + d) s

@[simp] theorem appendDigits?_nil (base n : Nat) : appendDigits? base n [] = some n := rfl

@[simp] theorem appendDigits?_cons (base n : Nat) (c : Char) (s : Text) :
    appendDigits? base n (c :: s) =
      (digitIn? base c).bind fun d => appendDigits? base (n * base + d) s := rfl

/-- The number that a non-empty run of digits denotes. -/
def magnitude? (base : Nat) (digits : Text) : Option Nat :=
  if digits.isEmpty then none else appendDigits? base 0 digits

/-- A letter of a type suffix. -/
def isSuffixLetter (c : Char) : Bool := c == 'u' || c == 'U' || c == 'l' || c == 'L'

/-- The text without the suffix letters it ends with. -/
def dropSuffix (s : Text) : Text := (s.reverse.dropWhile isSuffixLetter).reverse

/-- The radix that the beginning of the digits marks, and the digits after the mark. -/
def radixOf : Text → Radix × Text
  | '0' :: 'x' :: body => (.hexadecimal, body)
  | '0' :: 'X' :: body => (.hexadecimal, body)
  | '0' :: 'b' :: body => (.binary, body)
  | '0' :: 'B' :: body => (.binary, body)
  | '0' :: c :: body => (.octal, c :: body)
  | digits => (.decimal, digits)

/-- The sign of a literal and the rest: one minus sign may stand in front. -/
def splitSign : Text → Bool × Text
  | '-' :: rest => (true, rest)
  | s => (false, s)

/-- The greatest magnitude of a literal, of 63 bits. -/
def greatest : Nat := 9223372036854775807

/-- The magnitude of a literal without its sign. -/
def unsigned? (s : Text) : Option Nat :=
  let (radix, body) := radixOf (dropSuffix s)
  (magnitude? radix.base body).filter (· ≤ greatest)

/-- The value of an integer literal. -/
def value? (s : Text) : Option Int :=
  let (negative, rest) := splitSign s
  (unsigned? rest).map fun (m : Nat) => if negative then -(m : Int) else (m : Int)

end Literal

end NameTables
