import NameTables.Script.Number

/-!
# Numbers with a point

Decimal numbers of double precision as a script prints them: with a number of places, with a power
of ten, or in whichever of the two ways is shorter.  All rounding is exact, and a half goes to the
even neighbour.

## Main definitions

* `Fractional` — a magnitude as a quotient, with its sign.
* `Fractional.lead?` — the number that a text begins with.
* `Fractional.fixed`, `Fractional.scientific`, `Fractional.general` — the ways to print it.
-/

namespace NameTables.Script

/-- A number: a quotient of natural numbers and a sign.  With zero for a divisor it is infinite, or if
the dividend is zero too it is not a number at all. -/
structure Fractional where
  /-- Is there a minus sign? -/
  negative : Bool
  /-- The dividend. -/
  dividend : Nat
  /-- The divisor. -/
  divisor : Nat

/-- How numbers are kept in a machine: with so many binary digits, and between powers of two. -/
structure Precision where
  /-- The number of binary digits. -/
  digits : Nat
  /-- The least power of two of a first digit. -/
  least : Int
  /-- The greatest power of two of a first digit. -/
  greatest : Int
  /-- How many of the binary digits make the first hexadecimal one. -/
  lead : Nat

/-- Numbers of 64 bits. -/
def Precision.double : Precision := ⟨53, -1022, 1023, 1⟩

/-- Numbers of 80 bits. -/
def Precision.extended : Precision := ⟨64, -16382, 16383, 4⟩

namespace Fractional

/-- A whole number. -/
def ofInt (n : Int) : Fractional := ⟨n < 0, n.natAbs, 1⟩

/-- The quotient rounded to the nearest natural number, a half to the even one. -/
def roundDiv (a b : Nat) : Nat :=
  let (q, r) := (a / b, a % b)
  if b < 2 * r ∨ (b = 2 * r ∧ q % 2 = 1) then q + 1 else q

/-- Is it a number that is not infinite? -/
def isFinite (x : Fractional) : Bool := x.divisor ≠ 0

/-- The text of a number that is infinite or none at all. -/
def wordOf (x : Fractional) : Text := if x.dividend = 0 then "nan".toList else "inf".toList

/-- The magnitude divided by a power of two, rounded. -/
def shifted (x : Fractional) (power : Int) : Nat :=
  if 0 ≤ power then roundDiv x.dividend (x.divisor * Nat.pow 2 power.toNat)
  else roundDiv (x.dividend * Nat.pow 2 (-power).toNat) x.divisor

/-- The power of two of the first binary digit of a magnitude that is not zero. -/
def firstPower (x : Fractional) : Int :=
  let guess := (x.dividend.log2 : Int) - (x.divisor.log2 : Int)
  let below :=
    if 0 ≤ guess then x.dividend < x.divisor * Nat.pow 2 guess.toNat
    else x.dividend * Nat.pow 2 (-guess).toNat < x.divisor
  if below then guess - 1 else guess

/-- The nearest number that is kept with a precision, and whether it is beyond what can be kept. -/
def rounded (p : Precision) (x : Fractional) : Fractional × Bool :=
  if x.dividend = 0 || !x.isFinite then (x, false)
  else
    let power := max x.firstPower p.least - (p.digits - 1)
    let n := x.shifted power
    let found : Fractional :=
      if 0 ≤ power then ⟨x.negative, n * Nat.pow 2 power.toNat, 1⟩
      else ⟨x.negative, n, Nat.pow 2 (-power).toNat⟩
    if n = 0 then (⟨x.negative, 0, 1⟩, true)
    else if p.greatest < found.firstPower then (⟨x.negative, 1, 0⟩, true)
    else
      let isExact := found.dividend * x.divisor = x.dividend * found.divisor
      (found, found.firstPower < p.least && !isExact)

/-- The order of numbers.  What is no number is as great as any other. -/
def compare (a b : Fractional) : Ordering :=
  let sign := fun x : Fractional => if x.dividend = 0 then 0 else if x.negative then -1 else 1
  let whole := fun (x y : Fractional) => sign x * (x.dividend * y.divisor : Int)
  (Ord.compare (sign a) (sign b)).then (Ord.compare (whole a b) (whole b a))

/-- The dividend with the sign. -/
def signed (x : Fractional) : Int := if x.negative then -x.dividend else x.dividend

/-- The sum of two numbers.  Something infinite is not changed by what is added to it. -/
def add (x y : Fractional) : Fractional :=
  if x.divisor = 0 then x
  else if y.divisor = 0 then y
  else
    let n := x.signed * y.divisor + y.signed * x.divisor
    ⟨n < 0, n.natAbs, x.divisor * y.divisor⟩

/-- So many times a number. -/
def times (n : Nat) (x : Fractional) : Fractional := ⟨x.negative, n * x.dividend, x.divisor⟩

/-- Is it a natural number? -/
def isNatural (x : Fractional) : Bool :=
  x.divisor ≠ 0 && x.dividend % x.divisor = 0 && (!x.negative || x.dividend = 0)

/-- The power of ten at the end of a numeral, and what follows. -/
def powerLead (s : Text) : Int × Text :=
  match s with
  | e :: r =>
    if e = 'e' || e = 'E' then
      match r with
      | '-' :: t =>
        match digitsLead? 10 t with
        | some (n, t) => (-(n : Int), t)
        | none => (0, s)
      | r =>
        match digitsLead? 10 (if r.head? = some '+' then r.tail else r) with
        | some (n, t) => (n, t)
        | none => (0, s)
    else (0, s)
  | [] => (0, s)

/-- The digits to a base that a text begins with, those behind a point, and what follows. -/
def digitsAround (isDigit : Char → Bool) (s : Text) : Text × Text × Text :=
  let whole := s.takeWhile isDigit
  match s.dropWhile isDigit with
  | '.' :: r =>
    if whole.isEmpty && !(r.head?.map isDigit).getD false then (whole, [], '.' :: r)
    else (whole, r.takeWhile isDigit, r.dropWhile isDigit)
  | r => (whole, [], r)

/-- The power of two at the end of a hexadecimal numeral, and what follows. -/
def binaryPowerLead (s : Text) : Int × Text :=
  match s with
  | 'p' :: r | 'P' :: r =>
    let (power, rest) := powerLead ('e' :: r)
    if rest.length < s.length then (power, rest) else (0, s)
  | s => (0, s)

/-- A word that a text begins with, in whatever case, and what follows. -/
def dropWord? (word : String) (s : Text) : Option Text :=
  if (s.take word.length).map Char.toLower = word.toList then some (s.drop word.length) else none

/-- The number without sign that a text begins with, and what follows. -/
def magnitudeLead? (negative : Bool) (s : Text) : Option (Fractional × Text) :=
  match dropWord? "infinity" s, dropWord? "inf" s, dropWord? "nan" s, s with
  | some rest, _, _, _ => some (⟨negative, 1, 0⟩, rest)
  | none, some rest, _, _ => some (⟨negative, 1, 0⟩, rest)
  | none, none, some rest, _ => some (⟨negative, 0, 0⟩, rest)
  | none, none, none, s =>
    let isHex := (dropWord? "0x" s).isSome
      && (digitsValue? 16 ((s.drop 2).filter (· ≠ '.') |>.take 1)).isSome
    let (whole, places, rest) :=
      if isHex then digitsAround (fun c => (digitsValue? 16 [c]).isSome) (s.drop 2)
      else digitsAround Char.isDigit s
    match digitsValue? (if isHex then 16 else 10) (whole ++ places) with
    | none => none
    | some n =>
      let (power, rest) := if isHex then binaryPowerLead rest else powerLead rest
      let power := if isHex then power - 4 * places.length else power - places.length
      -- powers that are farther away make no difference any more
      let bound : Int := if isHex then 20000 else 6000
      let power := max (-(bound + places.length)) (min bound power)
      let base := if isHex then 2 else 10
      some (if 0 ≤ power then ⟨negative, n * Nat.pow base power.toNat, 1⟩
        else ⟨negative, n, Nat.pow base (-power).toNat⟩, rest)

/-- The number that a text begins with behind blanks, and what follows. -/
def lead? (s : Text) : Option (Fractional × Text) :=
  match s.dropWhile isBlankChar with
  | '-' :: s => magnitudeLead? true s
  | '+' :: s => magnitudeLead? false s
  | s => magnitudeLead? false s

/-- Digits with a point before the last `places` of them. -/
def withPoint (places n : Nat) : Text :=
  let digits := Nat.toDigits 10 n
  let digits := List.replicate (places + 1 - digits.length) '0' ++ digits
  let whole := digits.take (digits.length - places)
  if places = 0 then whole else whole ++ '.' :: digits.drop whole.length

/-- The magnitude with a number of places. -/
def fixed (x : Fractional) (places : Nat) : Text :=
  withPoint places (roundDiv (x.dividend * Nat.pow 10 places) x.divisor)

/-- The digits of the magnitude that are left when it is divided by a power of ten and rounded. -/
def scaledBy (x : Fractional) (power : Int) : Nat :=
  if 0 ≤ power then roundDiv x.dividend (x.divisor * Nat.pow 10 power.toNat)
  else roundDiv (x.dividend * Nat.pow 10 (-power).toNat) x.divisor

/-- The power of ten of the first digit, when the magnitude is rounded to `places` digits after
it. -/
def leadingPower (x : Fractional) (places : Nat) : Int :=
  if x.dividend = 0 then 0
  else
    let length := fun n => ((Nat.toDigits 10 n).length : Int)
    let guess := length x.dividend - length x.divisor
    let guess :=
      if 0 ≤ guess then if x.dividend < x.divisor * Nat.pow 10 guess.toNat then guess - 1 else guess
      else if x.dividend * Nat.pow 10 (-guess).toNat < x.divisor then guess - 1 else guess
    if Nat.pow 10 (places + 1) ≤ x.scaledBy (guess - places) then guess + 1 else guess

/-- The magnitude as one digit, a number of places, and a power of ten. -/
def scientific (x : Fractional) (places : Nat) : Text :=
  let power := x.leadingPower places
  let n := x.scaledBy (power - places)
  let exponent := Nat.toDigits 10 power.natAbs
  withPoint places n ++ 'e' :: (if power < 0 then '-' else '+')
    :: (List.replicate (2 - exponent.length) '0' ++ exponent)

/-- A numeral without zeros at the end of its places. -/
def dropZeros (s : Text) : Text :=
  let mantissa := s.takeWhile (· ≠ 'e')
  let rest := s.dropWhile (· ≠ 'e')
  if '.' ∈ mantissa then
    let kept := mantissa.reverse.dropWhile (· = '0')
    (if kept.head? = some '.' then kept.tail else kept).reverse ++ rest
  else s

/-- The magnitude with a number of digits, with or without a power of ten, whichever is shorter. -/
def general (x : Fractional) (digits : Nat) (keepZeros : Bool) : Text :=
  let digits := max digits 1
  let power := x.leadingPower (digits - 1)
  let s :=
    if power < -4 ∨ (digits : Int) ≤ power then x.scientific (digits - 1)
    else x.fixed ((digits : Int) - 1 - power).toNat
  if keepZeros then s else dropZeros s

/-- The magnitude in hexadecimal digits with a power of two, as it is kept with a precision; with
`places`, it is rounded to so many. -/
def hexadecimal (p : Precision) (x : Fractional) (places : Option Nat) (keepPoint : Bool) : Text :=
  let power := if x.dividend = 0 then 0 else max x.firstPower p.least - (p.lead - 1)
  let count := places.getD ((p.digits - p.lead + 3) / 4)
  let n := x.shifted (power - 4 * count)
  let lead := n / Nat.pow 16 count
  let digits := Nat.toDigits 16 (n % Nat.pow 16 count)
  let digits := List.replicate (count - digits.length) '0' ++ digits
  let digits := if count = 0 then [] else digits
  let digits :=
    if places.isNone then (digits.reverse.dropWhile (· = '0')).reverse else digits
  "0x".toList ++ Nat.toDigits 16 lead
    ++ (if digits.isEmpty && !keepPoint then [] else '.' :: digits)
    ++ 'p' :: (if power < 0 then '-' else '+') :: Nat.toDigits 10 power.natAbs

end Fractional

end NameTables.Script
