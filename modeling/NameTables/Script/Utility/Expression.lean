import NameTables.Script.Regex.Reading
import NameTables.Script.Utility.Basic

/-!
# The value of an expression

The program that works out an expression, each part of which is a word of its own: numbers, texts,
comparisons and matches.

## Main definitions

* `ExpressionFault` — what is wrong with an expression.
* `Working.alternatives` — the value of an expression.
* `workOut` — the program.
-/

namespace NameTables.Script.Utility

/-- What is wrong with an expression. -/
inductive ExpressionFault
  /-- A word has no place in it. -/
  | unexpected (word : Text)
  /-- A parenthesis closes nothing. -/
  | unopened
  /-- Another word has to follow one. -/
  | unfinished (word : Text)
  /-- A parenthesis has to follow a word. -/
  | noClose (word : Text)
  /-- Another word stands where a parenthesis has to. -/
  | otherClose (word : Text)
  /-- A number has to stand there. -/
  | noNumber
  /-- A number is divided by zero. -/
  | zeroDivision
  /-- A regular expression is none. -/
  | regex (fault : RegexFault)

/-- The wording of a fault. -/
def ExpressionFault.message : ExpressionFault → Text
  | .unexpected word => "syntax error: unexpected argument ".toList ++ inCurlyQuotes word
  | .unopened => "syntax error: unexpected ')'".toList
  | .unfinished word => "syntax error: missing argument after ".toList ++ inCurlyQuotes word
  | .noClose word => "syntax error: expecting ')' after ".toList ++ inCurlyQuotes word
  | .otherClose word => "syntax error: expecting ')' instead of ".toList ++ inCurlyQuotes word
  | .noNumber => "non-integer argument".toList
  | .zeroDivision => "division by zero".toList
  | .regex fault => fault.message

/-- Take the words of an expression one by one, of which the last one is kept. -/
abbrev Working := StateT (Text × List Text) (Except ExpressionFault)

namespace Working

/-- The whole number that a word is. -/
def number? (word : Text) : Option Int :=
  match word with
  | '-' :: digits => (digitsValue? 10 digits).map fun n => -(n : Int)
  | digits => (digitsValue? 10 digits).map fun n => (n : Int)

/-- Does a value count as nothing? -/
def isNull (value : Text) : Bool :=
  value.isEmpty || (let digits := if value.head? = some '-' then value.tail else value
    !digits.isEmpty && digits.all (· = '0'))

/-- The next word if it is one of these, which is passed over. -/
def accept? (words : List String) : Working (Option Text) := do
  match (← get).2 with
  | word :: rest =>
    if words.any (·.toList = word) then
      set (word, rest)
      return some word
    else return none
  | [] => return none

/-- The next word. -/
def take : Working Text := do
  match ← get with
  | (_, word :: rest) =>
    set (word, rest)
    return word
  | (last, []) => throw (.unfinished last)

/-- The whole number that a value is. -/
def number (value : Text) : Working Int :=
  match number? value with
  | some n => return n
  | none => throw .noNumber

/-- What a value has in common with a regular expression from its beginning on: what the first group
takes, or how much it is. -/
def matched (value pattern : Text) : Working Text := do
  match Regex.read ⟨false, true, false, false, false⟩ (symbolsOf pattern) with
  | .error fault => throw (.regex fault)
  | .ok (r, groups) =>
    match r.end? false (.ofText (symbolsOf value)) with
    | some after =>
      if 0 < groups then return octetsOf ((after.group? 1).getD [])
      else return Text.ofNat after.position
    | none => return if 0 < groups then [] else ['0']

/-- The truth of a comparison. -/
def compared (a sign b : Text) : Bool :=
  let order : Ordering :=
    match number? a, number? b with
    | some x, some y => compare x y
    | _, _ => if a = b then .eq else if a < b then .lt else .gt
  match String.ofList sign with
  | "<" => order == .lt
  | "<=" => order != .gt
  | "=" => order == .eq
  | "==" => order == .eq
  | "!=" => order != .eq
  | ">=" => order != .lt
  | _ => order == .gt

/-- The value of a truth. -/
def ofTruth (b : Bool) : Text := if b then ['1'] else ['0']

mutual

/-- The value of alternatives; nothing of it is carried out when it is `idle`. -/
def alternatives : (fuel : Nat) → (idle : Bool) → Working Text
  | 0, _ => return []
  | fuel + 1, idle => do
    let mut value ← conjunction fuel idle
    for _ in List.range fuel do
      if (← accept? ["|"]).isSome then
        let other ← conjunction fuel (idle || !isNull value)
        if isNull value then value := if isNull other then ['0'] else other
      else break
    return value

/-- The value of conditions that have to hold together. -/
def conjunction : (fuel : Nat) → (idle : Bool) → Working Text
  | 0, _ => return []
  | fuel + 1, idle => do
    let mut value ← comparison fuel idle
    for _ in List.range fuel do
      if (← accept? ["&"]).isSome then
        let other ← comparison fuel (idle || isNull value)
        if isNull value || isNull other then value := ['0']
      else break
    return value

/-- The value of a comparison. -/
def comparison : (fuel : Nat) → (idle : Bool) → Working Text
  | 0, _ => return []
  | fuel + 1, idle => do
    let mut value ← sum fuel idle
    for _ in List.range fuel do
      match ← accept? ["<", "<=", "=", "==", "!=", ">=", ">"] with
      | some sign =>
        let other ← sum fuel idle
        value := ofTruth (compared value sign other)
      | none => break
    return value

/-- The value of a sum. -/
def sum : (fuel : Nat) → (idle : Bool) → Working Text
  | 0, _ => return []
  | fuel + 1, idle => do
    let mut value ← product fuel idle
    for _ in List.range fuel do
      match ← accept? ["+", "-"] with
      | some sign =>
        let other ← product fuel idle
        if !idle then
          let a ← number value
          let b ← number other
          value := Text.ofInt (if sign = ['+'] then a + b else a - b)
      | none => break
    return value

/-- The value of a product. -/
def product : (fuel : Nat) → (idle : Bool) → Working Text
  | 0, _ => return []
  | fuel + 1, idle => do
    let mut value ← matching fuel idle
    for _ in List.range fuel do
      match ← accept? ["*", "/", "%"] with
      | some sign =>
        let other ← matching fuel idle
        if !idle then
          let a ← number value
          let b ← number other
          if sign ≠ ['*'] && b = 0 then throw .zeroDivision
          value := Text.ofInt (if sign = ['*'] then a * b else if sign = ['/'] then a.tdiv b
            else a.tmod b)
      | none => break
    return value

/-- The value of a match. -/
def matching : (fuel : Nat) → (idle : Bool) → Working Text
  | 0, _ => return []
  | fuel + 1, idle => do
    let mut value ← function fuel idle
    for _ in List.range fuel do
      if (← accept? [":"]).isSome then
        let pattern ← function fuel idle
        if !idle then value ← matched value pattern
      else break
    return value

/-- The value of what a function makes of words. -/
def function : (fuel : Nat) → (idle : Bool) → Working Text
  | 0, _ => return []
  | fuel + 1, idle => do
    match ← accept? ["+", "length", "match", "index", "substr", "("] with
    | none =>
      if (← accept? [")"]).isSome then throw .unopened
      take
    | some name =>
      match String.ofList name with
      | "+" => take
      | "length" =>
        let value ← function fuel idle
        return Text.ofNat (symbolsOf value).length
      | "match" =>
        let value ← function fuel idle
        let pattern ← function fuel idle
        if idle then return value else matched value pattern
      | "index" =>
        let value ← function fuel idle
        let among := symbolsOf (← function fuel idle)
        return Text.ofNat (((symbolsOf value).findIdx? (· ∈ among)).map (· + 1) |>.getD 0)
      | "substr" =>
        let value ← function fuel idle
        let start := number? (← function fuel idle)
        let length := number? (← function fuel idle)
        match start, length with
        | some start, some length =>
          if start ≤ 0 || length ≤ 0 then return []
          else return octetsOf (((symbolsOf value).drop (start - 1).toNat).take length.toNat)
        | _, _ => return []
      | _ =>
        let value ← alternatives fuel idle
        match ← get with
        | (last, []) => throw (.noClose last)
        | (_, [')'] :: rest) =>
          set (([')'] : Text), rest)
          return value
        | (_, word :: _) => throw (.otherClose word)

end

end Working

/-- Work out an expression. -/
def workOut : Utility := fun args => do
  let words := match args with
    | ['-', '-'] :: rest => rest
    | words => words
  if words.isEmpty then modify (·.misuseWith 2 "missing operand".toList)
  else
    let fuel := 8 * words.length + 16
    match (Working.alternatives fuel false).run ([], words) with
    | .error fault => modify (·.failWith 2 fault.message)
    | .ok (_, _, extra :: _) =>
      modify (·.failWith 2 (ExpressionFault.unexpected extra).message)
    | .ok (value, _, []) =>
      modify (·.ofTest (!Working.isNull value))
      Run.printOr 3 (value ++ ['\n'])

end NameTables.Script.Utility
