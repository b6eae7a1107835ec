import NameTables.Script.Program

/-!
# Arithmetic in scripts

Expressions over whole numbers of 64 bits, with the operators of C.  Variables may be assigned.
What a condition leaves out is read but has no effect.

## Main definitions

* `numeralLead`, `numberIn?` — numerals at the beginning of a text, and alone in one.
* `CalculationFault` — what is wrong with an expression.
* `evaluate` — the value of an expression, and the variables after it.
-/

namespace NameTables.Script

/-- A number brought into the range of 64 bits. -/
def wrap (n : Int) : Int := n.bmod 18446744073709551616

/-- The value of a digit. -/
def digitValue (c : Char) : Nat :=
  if c.isDigit then c.toNat - '0'.toNat
  else if 'a' ≤ c ∧ c ≤ 'z' then c.toNat - 'a'.toNat + 10
  else if 'A' ≤ c ∧ c ≤ 'Z' then c.toNat - 'A'.toNat + 10
  else 36

/-- The value of digits to a base, if all are. -/
def digitsValue? (base : Nat) (s : Text) : Option Nat :=
  if s.isEmpty || s.any fun c => base ≤ digitValue c then none
  else some (s.foldl (fun n c => n * base + digitValue c) 0)

/-- The least and the greatest number of 64 bits. -/
def extremes : Int × Int := (-9223372036854775808, 9223372036854775807)

/-- A blank, a tab or a character that ends a line or a page. -/
def isBlankChar (c : Char) : Bool := c = ' ' || ('\t' ≤ c && c ≤ '\r')

/-- The digits to a base that a text begins with, as a number, and what follows; there is no number
without a digit. -/
def digitsLead? (base : Nat) (s : Text) : Option (Nat × Text) :=
  let isDigit := fun c => decide (digitValue c < base)
  match s.takeWhile isDigit with
  | [] => none
  | digits => some (digits.foldl (fun n c => n * base + digitValue c) 0, s.dropWhile isDigit)

/-- The numeral without sign that a text begins with, and what follows: hexadecimal after `0x`,
octal after `0`, else decimal. -/
def magnitudeLead? (s : Text) : Option (Nat × Text) :=
  let marked :=
    match s with
    | '0' :: 'x' :: r => digitsLead? 16 r
    | '0' :: 'X' :: r => digitsLead? 16 r
    | _ => none
  match marked, s with
  | some found, _ => some found
  | none, '0' :: _ => digitsLead? 8 s
  | none, s => digitsLead? 10 s

/-- The numeral that a text begins with behind blanks, and what follows.  It is read to a base of
its own, or as a decimal one. -/
def numeralLead? (decimal : Bool) (s : Text) : Option (Int × Text) :=
  let lead := fun s => if decimal then digitsLead? 10 s else magnitudeLead? s
  match s.dropWhile isBlankChar with
  | '-' :: s => (lead s).map fun (n, r) => (-(n : Int), r)
  | '+' :: s => (lead s).map fun (n, r) => ((n : Int), r)
  | s => (lead s).map fun (n, r) => ((n : Int), r)

/-- Is the number one of 64 bits? -/
def fits (n : Int) : Bool := extremes.1 ≤ n && n ≤ extremes.2

/-- The number that a text tells, with nothing but blanks around it. -/
def numberIn? (decimal : Bool) (s : Text) : Option Int :=
  match numeralLead? decimal s with
  | some (n, r) => if fits n && r.all isBlankChar then some n else none
  | none => none

/-- Variables with their values. -/
abbrev Variables := List (Text × Text)

/-- The value of a variable. -/
def Variables.get? (vs : Variables) (name : Text) : Option Text :=
  (List.find? (fun v => v.1 == name) vs).map Prod.snd

/-- The variables with a new value for one. -/
def Variables.set : Variables → Text → Text → Variables
  | [], name, value => [(name, value)]
  | v :: rest, name, value =>
    if v.1 = name then (name, value) :: rest else v :: Variables.set rest name value

/-- The variables without one. -/
def Variables.unset (vs : Variables) (name : Text) : Variables :=
  List.filter (fun v => v.1 != name) vs

/-- What is wrong with an expression. -/
inductive CalculationFault
  /-- Something else has to come next. -/
  | expecting (what : Text)
  /-- The divisor is zero. -/
  | divisionByZero
  /-- The value of a variable is no number. -/
  | illegalNumber (s : Text)
  deriving DecidableEq, Repr

/-- What is said about an expression. -/
def CalculationFault.message (expression : Text) : CalculationFault → Text
  | .expecting what =>
    "arithmetic expression: expecting ".toList ++ what ++ ": \"".toList ++ expression ++ ['\x22']
  | .divisionByZero =>
    "arithmetic expression: division by zero: \"".toList ++ expression ++ ['\x22']
  | .illegalNumber s => "Illegal number: ".toList ++ s

/-- What is left of an expression, and the variables. -/
structure Calculation where
  /-- The text that is left. -/
  rest : Text
  /-- The variables. -/
  bindings : Variables

/-- A step of a calculation. -/
abbrev Calculate (α : Type) := StateT Calculation (Except CalculationFault) α

namespace Calculate

/-- The text that is left behind blanks. -/
def rest : Calculate Text := do
  modify fun c => { c with rest := c.rest.dropWhile fun c => c = ' ' || c = '\t' || c = '\n' }
  return (← get).rest

/-- Pass so many characters. -/
def skip (n : Nat) : Calculate Unit := modify fun c => { c with rest := c.rest.drop n }

/-- Give up where something else has to come next. -/
def expecting {α : Type} (what : String) : Calculate α := throw (.expecting what.toList)

end Calculate

/-- One for true and zero for false. -/
def ofTruth (b : Bool) : Int := if b then 1 else 0

/-- The operators between two numbers, the longer ones first, with how tightly they bind. -/
def operators : List (Text × Nat) :=
  [("||".toList, 1), ("&&".toList, 2), ("==".toList, 6), ("!=".toList, 6), ("<<".toList, 8),
    (">>".toList, 8), ("<=".toList, 7), (">=".toList, 7), ("|".toList, 3), ("^".toList, 4),
    ("&".toList, 5), ("<".toList, 7), (">".toList, 7), ("+".toList, 9), ("-".toList, 9),
    ("*".toList, 10), ("/".toList, 10), ("%".toList, 10)]

/-- The value of an operation; there is none when it divides by zero. -/
def operate? (operator : Text) (a b : Int) : Option Int :=
  match operator with
  | ['|', '|'] => some (ofTruth (a ≠ 0 || b ≠ 0))
  | ['&', '&'] => some (ofTruth (a ≠ 0 && b ≠ 0))
  | ['=', '='] => some (ofTruth (a = b))
  | ['!', '='] => some (ofTruth (a ≠ b))
  | ['<', '<'] => some (wrap (a * Nat.pow 2 (b % 64).toNat))
  | ['>', '>'] => some (a / Nat.pow 2 (b % 64).toNat)
  | ['<', '='] => some (ofTruth (a ≤ b))
  | ['>', '='] => some (ofTruth (b ≤ a))
  | ['|'] => some ((BitVec.ofInt 64 a ||| BitVec.ofInt 64 b).toInt)
  | ['^'] => some ((BitVec.ofInt 64 a ^^^ BitVec.ofInt 64 b).toInt)
  | ['&'] => some ((BitVec.ofInt 64 a &&& BitVec.ofInt 64 b).toInt)
  | ['<'] => some (ofTruth (a < b))
  | ['>'] => some (ofTruth (b < a))
  | ['+'] => some (wrap (a + b))
  | ['-'] => some (wrap (a - b))
  | ['*'] => some (wrap (a * b))
  | ['/'] => if b = 0 then none else some (wrap (a.tdiv b))
  | ['%'] => if b = 0 then none else some (a.tmod b)
  | _ => none

/-- The operators of assignments, with the operation each stands for. -/
def assigning : List (Text × Text) :=
  [("+=".toList, ['+']), ("-=".toList, ['-']), ("*=".toList, ['*']), ("/=".toList, ['/']),
    ("%=".toList, ['%']), ("<<=".toList, ['<', '<']), (">>=".toList, ['>', '>']),
    ("&=".toList, ['&']), ("|=".toList, ['|']), ("^=".toList, ['^'])]

/-- The operation of the assignment that a text begins with, and what follows it; the plain
assignment has none. -/
def assignment? (s : Text) : Option (Option Text × Text) :=
  match assigning.findSome? fun (sign, op) => (Text.dropLead? sign s).map (op, ·) with
  | some (op, rest) => some (some op, rest)
  | none =>
    match s with
    | '=' :: '=' :: _ => none
    | '=' :: rest => some (none, rest)
    | _ => none

/-- The value of an operation. -/
def operate (operator : Text) (a b : Int) : Calculate Int :=
  match operate? operator a b with
  | some n => return n
  | none => throw .divisionByZero

/-- The operation that comes next, with how tightly it binds. -/
def operator? (s : Text) : Option (Text × Nat) :=
  if (assignment? s).isSome then none else operators.find? fun o => Text.beginsWith o.1 s

/-- The value of a variable as a number; a variable without value counts as zero. -/
def variableValue (name : Text) : Calculate Int := do
  let s := ((← get).bindings.get? name).getD []
  if s.all isBlankChar then return 0
  else
    match numberIn? false s with
    | some n => return n
    | none => throw (.illegalNumber s)

mutual

/-- An assignment, or what stands in its place.  With `idle` nothing has an effect. -/
def calculate : (fuel : Nat) → (idle : Bool) → Calculate Int
  | 0, _ => Calculate.expecting "primary"
  | fuel + 1, idle => do
    let s ← Calculate.rest
    let name := if (s.head?.map beginsName).getD false then s.takeWhile inName else []
    match name, assignment? ((s.drop name.length).dropWhile isBlankChar) with
    | [], _ => calculateChoice fuel idle
    | _, none => calculateChoice fuel idle
    | name, some (operation, rest) =>
      modify fun c => { c with rest }
      let b ← calculate fuel idle
      if idle then return b
      else
        let n ←
          match operation with
          | none => pure b
          | some operator => operate operator (← variableValue name) b
        modify fun c => { c with bindings := c.bindings.set name (Text.ofInt n) }
        return n

/-- A choice between two values, or what stands in its place. -/
def calculateChoice : (fuel : Nat) → (idle : Bool) → Calculate Int
  | 0, _ => Calculate.expecting "primary"
  | fuel + 1, idle => do
    let a ← calculateFrom fuel idle 1
    match ← Calculate.rest with
    | '?' :: _ =>
      Calculate.skip 1
      let b ← calculate fuel (idle || a = 0)
      match ← Calculate.rest with
      | ':' :: _ =>
        Calculate.skip 1
        let c ← calculateChoice fuel (idle || a ≠ 0)
        return if a ≠ 0 then b else c
      | _ => Calculate.expecting "':'"
    | _ => return a

/-- Operations that bind at least as tightly as `level`. -/
def calculateFrom : (fuel : Nat) → (idle : Bool) → (level : Nat) → Calculate Int
  | 0, _, _ => Calculate.expecting "primary"
  | fuel + 1, idle, level => do calculateOn fuel idle level (← calculateOperand fuel idle)

/-- What follows a first operand. -/
def calculateOn : (fuel : Nat) → (idle : Bool) → (level : Nat) → Int → Calculate Int
  | 0, _, _, _ => Calculate.expecting "primary"
  | fuel + 1, idle, level, a => do
    match operator? (← Calculate.rest) with
    | none => return a
    | some (operator, tightness) =>
      if tightness < level then return a
      else
        Calculate.skip operator.length
        let decided :=
          (operator = ['&', '&'] && a = 0) || (operator = ['|', '|'] && a ≠ 0)
        let b ← calculateFrom fuel (idle || decided) (tightness + 1)
        if idle then calculateOn fuel idle level b
        else calculateOn fuel idle level (← operate operator a b)

/-- An operand. -/
def calculateOperand : (fuel : Nat) → (idle : Bool) → Calculate Int
  | 0, _ => Calculate.expecting "primary"
  | fuel + 1, idle => do
    match ← Calculate.rest with
    | [] => Calculate.expecting "primary"
    | '(' :: _ =>
      Calculate.skip 1
      let n ← calculate fuel idle
      match ← Calculate.rest with
      | ')' :: _ =>
        Calculate.skip 1
        return n
      | _ => Calculate.expecting "')'"
    | '-' :: _ =>
      Calculate.skip 1
      return wrap (-(← calculateOperand fuel idle))
    | '+' :: _ =>
      Calculate.skip 1
      calculateOperand fuel idle
    | '!' :: _ =>
      Calculate.skip 1
      return ofTruth ((← calculateOperand fuel idle) = 0)
    | '~' :: _ =>
      Calculate.skip 1
      return -(← calculateOperand fuel idle) - 1
    | c :: s =>
      if c.isDigit then
        match magnitudeLead? (c :: s) with
        | some (n, rest) =>
          modify fun c => { c with rest }
          -- a numeral that is too great stands for the greatest number
          return min (n : Int) extremes.2
        | none => Calculate.expecting "primary"
      else if beginsName c then
        let name := (c :: s).takeWhile inName
        Calculate.skip name.length
        if idle then return 0 else variableValue name
      else Calculate.expecting "primary"

end

/-- The value of an expression, and the variables after it. -/
def evaluate (vs : Variables) (s : Text) : Except CalculationFault (Int × Variables) := do
  let calculation : Calculate Int := do
    let n ← calculate (4 * s.length + 16) false
    if (← Calculate.rest).isEmpty then return n else Calculate.expecting "EOF"
  let (n, c) ← StateT.run calculation ⟨s, vs⟩
  return (n, c.bindings)

end NameTables.Script
