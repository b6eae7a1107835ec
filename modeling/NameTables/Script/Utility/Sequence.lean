import NameTables.Script.Format
import NameTables.Script.Utility.Words

/-!
# Numbers in a row

A program that prints numbers from one to another, as far from each other as it is told.  Whole
numbers are printed as they are; others are computed as a machine keeps them, and printed with as
many places as they are told with, or by a format.

## Main definitions

* `Operand`, `Operand.read` — a number, and how it was written.
* `NumberFormat`, `NumberFormat.read` — how numbers are printed.
* `Row`, `Row.chunk` — the numbers in a row, some at a time.
* `printNumbers` — the program.
-/

namespace NameTables.Script.Utility

/-! ### Numbers that are told -/

/-- A number, and how it was written. -/
structure Operand where
  /-- Its value. -/
  value : Fractional
  /-- How many characters it takes when it is printed. -/
  width : Int
  /-- How many places it has, if that shows. -/
  places : Option Nat

namespace Operand

/-- A number that is not told. -/
def one : Operand := ⟨.ofInt 1, 1, some 0⟩

/-- The number that a word tells, as it is kept. -/
def value? (word : Text) : Option Fractional :=
  match Fractional.lead? word with
  | some (x, []) =>
    let (kept, beyond) := x.rounded .extended
    if beyond && kept.dividend ≠ 0 then none else some kept
  | _ => none

/-- The width and the places of a decimal number, as it is written. -/
def shapeOf (word : Text) : Int × Nat :=
  let whole := word.takeWhile fun c => c ≠ '.' && c ≠ 'e' && c ≠ 'E'
  let hasPoint := '.' ∈ word
  let placesText :=
    if hasPoint then ((word.dropWhile (· ≠ '.')).drop 1).takeWhile fun c => c ≠ 'e' && c ≠ 'E'
    else []
  let fraction := placesText.length
  let width : Int :=
    if !hasPoint then word.length
    else if fraction = 0 then word.length - 1
    else if (whole.getLast?.map Char.isDigit).getD false then word.length
    else word.length + 1
  match word.dropWhile fun c => c ≠ 'e' && c ≠ 'E' with
  | [] => (width, fraction)
  | power =>
    let n := (Fractional.powerLead power).1
    let width := width - power.length
    if n < 0 then
      let more : Int := if !hasPoint || fraction = 0 then 1 else 0
      (width + more + n.natAbs, fraction + n.natAbs)
    else
      let places := fraction - min fraction n.natAbs
      let width := if places = 0 && fraction ≠ 0 then width - 1 else width
      (width + ((n.natAbs - min fraction n.natAbs : Nat) : Int), places)

/-- The number that a word tells; or what is wrong with it. -/
def read (word : Text) : Except Text Operand :=
  match value? word with
  | none => .error ("invalid floating point argument: ".toList ++ inCurlyQuotes word)
  | some x =>
    if x.dividend = 0 && x.divisor = 0 then
      .error ("invalid ".toList ++ inCurlyQuotes "not-a-number".toList ++ " argument: ".toList
        ++ inCurlyQuotes word)
    else
      let word := word.dropWhile fun c => isBlankChar c || c = '+'
      let isWhole := '.' ∉ word && 'p' ∉ word
      if word.any (fun c => c = 'x' || c = 'X') || !x.isFinite then
        .ok ⟨x, 0, if isWhole then some 0 else none⟩
      else
        let (width, places) := shapeOf word
        .ok ⟨x, width, some places⟩

end Operand

/-! ### Formats -/

/-- How numbers are printed. -/
structure NumberFormat where
  /-- What stands in front of a number. -/
  lead : Text
  /-- The layout of the number. -/
  layout : Layout
  /-- The letter of the conversion. -/
  letter : Char
  /-- What stands behind a number. -/
  ending : Text

namespace NumberFormat

/-- The number as the conversion prints it. -/
def number (f : NumberFormat) (x : Fractional) : Text :=
  let text := f.layout.fractional .extended f.letter.toLower x
  if f.letter.isUpper then text.map Char.toUpper else text

/-- The number with what stands around it. -/
def text (f : NumberFormat) (x : Fractional) : Text := f.lead ++ f.number x ++ f.ending

/-- The text up to a conversion, with doubled signs as one, and what follows the sign. -/
def untilDirective : Text → Text × Option Text
  | '%' :: '%' :: s =>
    let (lead, rest) := untilDirective s
    ('%' :: lead, rest)
  | '%' :: s => ([], some s)
  | c :: s =>
    let (lead, rest) := untilDirective s
    (c :: lead, rest)
  | [] => ([], none)

/-- The format that a word tells; or what is wrong with it. -/
def read (word : Text) : Except Text NumberFormat :=
  let fail := fun said : Text =>
    .error ("format ".toList ++ inCurlyQuotes word ++ ' ' :: said)
  match untilDirective word with
  | (_, none) => fail "has no % directive".toList
  | (lead, some s) =>
    let isFlag := fun c : Char => c ∈ "-+#0 '".toList
    let flags := s.takeWhile isFlag
    let s := s.dropWhile isFlag
    let width := (digitsValue? 10 (s.takeWhile Char.isDigit)).getD 0
    let (places, s) :=
      match s.dropWhile Char.isDigit with
      | '.' :: s =>
        (some ((digitsValue? 10 (s.takeWhile Char.isDigit)).getD 0), s.dropWhile Char.isDigit)
      | s => (none, s)
    match if s.head? = some 'L' then s.tail else s with
    | [] => fail "ends in %".toList
    | letter :: s =>
      if letter ∉ "efgaEFGA".toList then
        fail ("has unknown %".toList ++ letter :: " directive".toList)
      else
        match untilDirective s with
        | (_, some _) => fail "has too many % directives".toList
        | (ending, none) => .ok ⟨lead, ⟨flags, width, places⟩, letter, ending⟩

/-- A format with nothing but a conversion. -/
def bare (layout : Layout) (letter : Char) : NumberFormat := ⟨[], layout, letter, []⟩

/-- The format for numbers that were written in some way, which have one width if that is asked
for. -/
def usual (equalWidth : Bool) (first step last : Operand) : NumberFormat :=
  match first.places, step.places, last.places with
  | some a, some b, some c =>
    let places := max a b
    let points := fun told : Nat => (if told = 0 && places ≠ 0 then 1 else 0 : Int)
    let firstWidth := first.width + (places - a) + points a
    let lastWidth := last.width + (places - c) + points c
      - if c ≠ 0 && places = 0 then 1 else 0
    if equalWidth then bare ⟨['0'], (max firstWidth lastWidth).toNat, some places⟩ 'f'
    else bare ⟨[], 0, some places⟩ 'f'
  | _, _, _ => bare ⟨[], 0, none⟩ 'g'

end NumberFormat

/-! ### Rows -/

/-- Numbers in a row. -/
structure Row where
  /-- The first number. -/
  first : Fractional
  /-- How far the numbers are from each other. -/
  step : Fractional
  /-- The number that none goes beyond. -/
  last : Fractional
  /-- How numbers are printed. -/
  format : NumberFormat
  /-- What stands between them. -/
  separator : Text

namespace Row

/-- Is a number beyond the last one? -/
def isBeyond (r : Row) (x : Fractional) : Bool :=
  if r.step.negative then x.compare r.last == .lt else r.last.compare x == .lt

/-- The number at a place, as it is kept. -/
def value (r : Row) (i : Nat) : Fractional :=
  if i = 0 then r.first
  else (r.first.add ((r.step.times i).rounded .extended).1 |>.rounded .extended).1

/-- Is a number beyond the last one printed all the same, since it looks like the last one and not like
the one before it? -/
def looksLast (r : Row) (before x : Fractional) : Bool :=
  let shown := r.format.number x
  match Operand.value? shown with
  | some y => y.compare r.last == .eq && r.format.number before != shown
  | none => false

/-- So many numbers from a place on, each with what stands behind it, and the place of the next one if
there is one. -/
def chunk (r : Row) : (count : Nat) → (i : Nat) → (pieces : List Text) → List Text × Option Nat
  | 0, i, pieces => (pieces, some i)
  | count + 1, i, pieces =>
    let x := r.value i
    let next := r.value (i + 1)
    if !r.isBeyond next then
      r.chunk count (i + 1) ((r.format.text x ++ r.separator) :: pieces)
    else if r.looksLast x next then
      ((r.format.text x ++ r.separator ++ r.format.text next ++ ['\n']) :: pieces, none)
    else ((r.format.text x ++ ['\n']) :: pieces, none)

end Row

/-- Natural numbers in a row. -/
structure NaturalRow where
  /-- How far the numbers are from each other. -/
  step : Nat
  /-- The number that none goes beyond, if there is one. -/
  last : Option Nat
  /-- What stands between them. -/
  separator : Text

/-- So many numbers from one on, each with what stands behind it, and the next one if there is
one. -/
def NaturalRow.chunk (r : NaturalRow) : (count : Nat) → (n : Nat) → (pieces : List Text) →
    List Text × Option Nat
  | 0, n, pieces => (pieces, some n)
  | count + 1, n, pieces =>
    let next := n + r.step
    if r.last.any (· < next) then ((Text.ofNat n ++ ['\n']) :: pieces, none)
    else r.chunk count next ((Text.ofNat n ++ r.separator) :: pieces)

/-! ### The program -/

/-- How many numbers are printed at once. -/
def rowChunk : Nat := 1000

/-- The time that takes, when there is a last one. -/
def rowTime : Nat := 100000

/-- Print numbers, some at a time. -/
def printChunks (time : Nat) (chunk : Nat → List Text × Option Nat) (start : Nat) : Run Unit := do
  repeatWhile (fun n => do
    let (pieces, next) := chunk n
    Run.print pieces.reverse.flatten
    Run.pass time
    return if ← Run.goes then next else none) (← get).stepsLeft start

/-- Is this no option, but maybe a negative number? -/
def isNumeral (word : Text) : Bool :=
  match word with
  | '-' :: c :: _ => c = '.' || c.isDigit || word = ['-', '-']
  | _ => true

/-- Is this an option whose value is the next word? -/
def takesNext (word : Text) : Bool :=
  match word with
  | '-' :: '-' :: name => (name.head? = some 's' || name.head? = some 'f') && '=' ∉ name
  | '-' :: letters => letters.dropWhile (· = 'w') ∈ [['s'], ['f']]
  | _ => false

/-- The arguments up to the first number, and those from there on. -/
def splitAtNumber : List Text → List Text × List Text
  | [] => ([], [])
  | [word] => if isNumeral word then ([], if word = ['-', '-'] then [] else [word]) else ([word], [])
  | word :: value :: rest =>
    if isNumeral word then ([], if word = ['-', '-'] then value :: rest else word :: value :: rest)
    else if takesNext word then
      let (options, operands) := splitAtNumber rest
      (word :: value :: options, operands)
    else
      let (options, operands) := splitAtNumber (value :: rest)
      (word :: options, operands)

/-- The first number, the step and the last number that words tell; or what is wrong with them. -/
def readOperands (words : List Text) : Except Text (Operand × Operand × Operand) :=
  match words with
  | [] => .error "missing operand".toList
  | [last] => do return (.one, .one, ← Operand.read last)
  | [first, last] => do return (← Operand.read first, .one, ← Operand.read last)
  | [first, step, last] => do
    let a ← Operand.read first
    let b ← Operand.read step
    if b.value.dividend = 0 then
      .error ("invalid Zero increment value: ".toList ++ inCurlyQuotes step)
    else return (a, b, ← Operand.read last)
  | _ :: _ :: _ :: extra :: _ => .error ("extra operand ".toList ++ inCurlyQuotes extra)

/-- The natural numbers that words tell as they are, without limits. -/
def naturalOperands? (words : List Text) : Option (Nat × Nat × Nat) := do
  let number := fun word : Text =>
    if word.all Char.isDigit then digitsValue? 10 word else none
  match words with
  | [last] => return (1, 1, ← number last)
  | [first, last] => return (← number first, 1, ← number last)
  | [first, step, last] => return (← number first, ← number step, ← number last)
  | _ => none

/-- The greatest distance between natural numbers that are printed as they are. -/
def greatestStep : Nat := 200

/-- Print numbers in a row. -/
def printNumbers : Utility := fun args => do
  let (args, operands) := splitAtNumber args
  let usage : Usage :=
    ⟨"w", "fs", [("equal-width", 'w'), ("format", 'f'), ("separator", 's')]⟩
  usage.program (fun options _ => do
    let separator := (wordOf? 's' options).getD ['\n']
    let isPlain := !isGiven 'w' options && !isGiven 'f' options && separator.length = 1
    let printNaturals := fun (first step : Nat) (last : Option Nat) => do
      if last.all (first ≤ ·) then
        let r : NaturalRow := ⟨step, last, separator⟩
        printChunks (if last.isSome then rowTime else endlessTime)
          (fun n => r.chunk rowChunk n []) first
    let format : Except Text (Option NumberFormat) :=
      match wordOf? 'f' options with
      | none => .ok none
      | some word => (NumberFormat.read word).map some
    match operands, format with
    | [], _ => modify (·.misuse "missing operand".toList)
    | _ :: _ :: _ :: extra :: _, _ =>
      modify (·.misuse ("extra operand ".toList ++ inCurlyQuotes extra))
    | _, .error said => Run.fail said
    | _, .ok format =>
      if format.isSome && isGiven 'w' options then
        modify (·.misuse
          "format string may not be specified when printing equal width strings".toList)
      else
        match if isPlain then naturalOperands? operands else none with
        | some (first, step, last) =>
          if step = 0 then
            modify (·.misuse ("invalid Zero increment value: ".toList
              ++ inCurlyQuotes (operands.getD 1 [])))
          else if step ≤ greatestStep then printNaturals first step (some last)
          else general options operands separator isPlain format printNaturals
        | none => general options operands separator isPlain format printNaturals) args
where
  /-- Print numbers as they are kept, where they are not whole. -/
  general (options : List (Char × Text)) (operands : List Text) (separator : Text)
      (isPlain : Bool) (format : Option NumberFormat)
      (printNaturals : Nat → Nat → Option Nat → Run Unit) : Run Unit := do
    match readOperands operands with
    | .error said => modify (·.misuse said)
    | .ok (first, step, last) =>
      let isWhole := fun x : Operand => x.places = some 0 && x.value.isNatural
      let natural := fun x : Operand => x.value.dividend / x.value.divisor
      if isPlain && isWhole first && isWhole step && natural step ≤ greatestStep
          && (isWhole last || (!last.value.isFinite && !last.value.negative)) then
        printNaturals (natural first) (natural step)
          (if last.value.isFinite then some (natural last) else none)
      else
        let format := format.getD (NumberFormat.usual (isGiven 'w' options) first step last)
        let r : Row := ⟨first.value, step.value, last.value, format, separator⟩
        if !r.isBeyond first.value then
          printChunks (if last.value.isFinite then rowTime else endlessTime)
            (fun i => r.chunk rowChunk i []) 0

end NameTables.Script.Utility
