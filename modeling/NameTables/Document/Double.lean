import NameTables.Document.Tree

/-!
# The range of double precision

A number of a document is kept only if a double can hold it.  There are two ways to tell.  The
exact one rounds the number as a whole.  The quick one cuts the number to as many leading digits
as fit a word, rounds these and the power of ten one by one, and then rounds their product, so
near the edge of the range the two may differ.

## Main definitions

* `Numeral.inRange` — the exact way.
* `Double.nearest` — the double nearest to a natural number.
* `Double.Parts`, `Double.Parts.inRange` — the quick way.
-/

namespace NameTables

namespace Double

/-- The least magnitude that no longer rounds to a finite double. -/
def overflow : Nat := Nat.pow 2 1024 - Nat.pow 2 970

/-- How many binary digits a double keeps. -/
def precision : Nat := 53

/-- The natural number of at most `precision` binary digits, but for zeros at its end, that is
nearest to `n`; of two the even one. -/
def nearest (n : Nat) : Nat :=
  let unit := Nat.pow 2 (n.log2 + 1 - precision)
  let (whole, rest) := (n / unit, n % unit)
  if unit < 2 * rest ∨ (unit = 2 * rest ∧ whole % 2 = 1) then (whole + 1) * unit
  else whole * unit

/-- A magnitude cut to the digits that fit a word. -/
structure Parts where
  /-- The leading digits, read as one natural number. -/
  significand : Nat
  /-- The power of ten that they are multiplied by. -/
  exponent : Int
  deriving DecidableEq, Repr

/-- Append digits to a number as long as it fits a word.  The second part is how many were
appended. -/
def appendFitting (n : Nat) : Text → Nat × Nat
  | [] => (n, 0)
  | d :: ds =>
    let m := n * 10 + (d.toNat - '0'.toNat)
    if m < Nat.pow 2 64 then
      let (m, count) := appendFitting m ds
      (m, count + 1)
    else (n, 0)

/-- The parts of a number with digits in front of and behind the point. -/
def Parts.ofDigits (whole behind : Text) (exponent : Int) : Parts :=
  let (n, taken) := appendFitting 0 whole
  let (n, places) := appendFitting n behind
  ⟨n, exponent + (whole.length - taken : Nat) - (places : Int)⟩

/-- Does the product of the rounded parts round to a finite double? -/
def Parts.inRange (p : Parts) : Bool :=
  if p.significand = 0 then true
  else
    match p.exponent with
    | .negSucc _ => true
    | .ofNat e => e ≤ 308 && nearest p.significand * nearest (Nat.pow 10 e) < overflow

end Double

/-- Does the number round to a finite double? -/
def Numeral.inRange (n : Numeral) : Bool :=
  if n.digits = 0 then true
  else
    let places := (Text.ofNat n.digits).length + n.exponent
    if places < 300 then true
    else if 320 < places then false
    else
      match n.exponent with
      | .ofNat e => n.digits * Nat.pow 10 e < Double.overflow
      | .negSucc e => n.digits < Double.overflow * Nat.pow 10 (e + 1)

end NameTables
