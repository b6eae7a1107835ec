import NameTables.Script.Shell

/-!
# Conditions

What the command `test` decides: texts, numbers and files.  A word is an operator or an operand by
what stands around it.

## Main definitions

* `Operator`, `operatorAt?` — operators, and what a word is.
* `Shell.condition` — the truth of a condition, or what is wrong with it.
-/

namespace NameTables.Script

/-- What is decided, or what is wrong with the words. -/
abbrev Decided := Except Text

/-- An operator. -/
inductive Operator
  /-- A hyphen and a letter in front of a word. -/
  | unary (letter : Char)
  /-- An operator between two words. -/
  | binary (sign : Text)
  /-- The opposite. -/
  | opposite
  /-- Both conditions. -/
  | both
  /-- Either condition. -/
  | either
  /-- An opening bracket. -/
  | opening
  /-- A closing bracket. -/
  | closing
  deriving DecidableEq, Repr

/-- The operators between two words. -/
def binarySigns : List Text :=
  ["=", "!=", "<", ">", "-eq", "-ne", "-gt", "-ge", "-lt", "-le", "-nt", "-ot", "-ef"].map
    String.toList

/-- The operator with a spelling. -/
def operatorOf? (word : Text) : Option Operator :=
  if word ∈ binarySigns then some (.binary word)
  else
    match word with
    | ['!'] => some .opposite
    | ['('] => some .opening
    | [')'] => some .closing
    | ['-', 'a'] => some .both
    | ['-', 'o'] => some .either
    | ['-', c] => if c ∈ "rwxefdcbpugkstznhOGLS".toList then some (.unary c) else none
    | _ => none

/-- Is the word an operator between two? -/
def isBinary (word : Text) : Bool :=
  match operatorOf? word with
  | some (.binary _) => true
  | _ => false

/-- The operator that the first word is, by what follows it. -/
def operatorAt? : List Text → Option Operator
  | [] => none
  | word :: rest =>
    match operatorOf? word, rest with
    | some (.unary _), [] => none
    | some (.unary c), [_] => some (.unary c)
    | some (.unary c), next :: _ => if isBinary next then none else some (.unary c)
    | some .opening, [] => none
    | found, _ => found

namespace Shell

/-- The truth of a condition on one word. -/
def unaryCondition (s : Shell) (letter : Char) (word : Text) : Decided Bool := do
  let node := s.nodeAt? word
  let hasMode := fun bit : Nat =>
    match node with
    | some (.file number) =>
      (s.files.state? number).any fun file => file.mode &&& bit ≠ 0
    | some (.directory mode) => mode &&& bit ≠ 0
    | _ => false
  match letter with
  | 'n' => return !word.isEmpty
  | 'z' => return word.isEmpty
  | 'd' => return (node.map Node.isDirectory).getD false
  | 'f' => return match node with | some (.file _) => true | _ => false
  | 'p' => return match node with | some (.pipe _) => true | _ => false
  | 'c' => return match node with | some (.device _) => true | _ => false
  | 'h' | 'L' =>
    return match s.files.linkAt? (path word) with | some (.link _) => true | _ => false
  | 's' =>
    return match node with
      | some (.file number) => !(s.files.content number).isEmpty
      | some (.directory _) => true
      | _ => false
  | 'x' => return hasMode 0o111
  | 'u' => return hasMode 0o4000
  | 'g' => return hasMode 0o2000
  | 'k' => return hasMode 0o1000
  | 't' =>
    match numberIn? true word with
    | some _ => return false
    | none => throw ("Illegal number: ".toList ++ word)
  | c => return c ∈ "erwOG".toList && node.isSome

/-- The number that a word tells. -/
def numberOf (word : Text) : Decided Int :=
  match numberIn? true word with
  | some n => .ok n
  | none => .error ("Illegal number: ".toList ++ word)

/-- The truth of a condition on two words. -/
def binaryCondition (s : Shell) (sign left right : Text) : Decided Bool := do
  let numbers := fun (p : Int → Int → Bool) => do return p (← numberOf left) (← numberOf right)
  match String.ofList sign with
  | "=" => return left = right
  | "!=" => return left ≠ right
  | "<" => return left < right
  | ">" => return right < left
  | "-eq" => numbers fun a b => a = b
  | "-ne" => numbers fun a b => a ≠ b
  | "-lt" => numbers fun a b => a < b
  | "-le" => numbers fun a b => a ≤ b
  | "-gt" => numbers fun a b => b < a
  | "-ge" => numbers fun a b => b ≤ a
  | "-ef" =>
    return match s.nodeAt? left, s.nodeAt? right with
      | some (.file a), some (.file b) => a = b
      | some (.directory _), some (.directory _) =>
        (s.files.locate (path left)).toOption == (s.files.locate (path right)).toOption
      | some a, some b => a = b
      | _, _ => false
  | "-nt" => return isOlder right left
  | "-ot" => return isOlder left right
  | _ => return false
where
  /-- Has the first file changed before the second one? -/
  isOlder (left right : Text) : Bool :=
    match s.fileAt? left, s.fileAt? right with
    | some a, some b => a.changed < b.changed
    | _, _ => false

mutual

/-- The truth of alternatives that begin with an operator or an operand, and the words from the last
one used on. -/
def alternatives (s : Shell) : (fuel : Nat) → Option Operator → List Text →
    Decided (Bool × List Text)
  | 0, _, words => .ok (false, words)
  | fuel + 1, operator, words => do
    let (a, words) ← s.conjunction fuel operator words
    match operatorAt? (words.drop 1) with
    | some .either =>
      let (b, words) ← s.alternatives fuel (operatorAt? (words.drop 2)) (words.drop 2)
      return (a || b, words)
    | _ => return (a, words)

/-- The truth of conditions that have to hold together, and the words from the last one used on. -/
def conjunction (s : Shell) : (fuel : Nat) → Option Operator → List Text →
    Decided (Bool × List Text)
  | 0, _, words => .ok (false, words)
  | fuel + 1, operator, words => do
    let (a, words) ← s.opposite fuel operator words
    match operatorAt? (words.drop 1) with
    | some .both =>
      let (b, words) ← s.conjunction fuel (operatorAt? (words.drop 2)) (words.drop 2)
      return (a && b, words)
    | _ => return (a, words)

/-- The truth of a condition or its opposite, and the words from the last one used on. -/
def opposite (s : Shell) : (fuel : Nat) → Option Operator → List Text →
    Decided (Bool × List Text)
  | 0, _, words => .ok (false, words)
  | fuel + 1, some .opposite, words => do
    let after := if words.length < 2 then words else words.drop 1
    let (a, words) ← s.opposite fuel (operatorAt? (words.drop 1)) after
    return (!a, words)
  | fuel + 1, operator, words => s.primary fuel operator words

/-- The truth of one condition, and the words from the last one used on. -/
def primary (s : Shell) : (fuel : Nat) → Option Operator → List Text →
    Decided (Bool × List Text)
  | 0, _, words => .ok (false, words)
  | _, _, [] => .ok (false, [])
  | fuel + 1, operator, word :: rest =>
    match operator with
    | some .opening =>
      match operatorAt? rest with
      | some .closing => .ok (false, rest)
      | first => do
        let (a, words) ← s.alternatives fuel first rest
        match operatorAt? (words.drop 1) with
        | some .closing => return (a, words.drop 1)
        | _ => throw "closing paren expected".toList
    | some (.unary letter) =>
      match rest with
      | [] => .error (word ++ ": argument expected".toList)
      | operand :: after => do return (← s.unaryCondition letter operand, operand :: after)
    | _ =>
      match rest with
      | sign :: after =>
        if isBinary sign then
          match after with
          | [] => .error (sign ++ ": argument expected".toList)
          | right :: more => do return (← s.binaryCondition sign word right, right :: more)
        else .ok (!word.isEmpty, word :: rest)
      | [] => .ok (!word.isEmpty, [word])

end

/-- The truth of the condition that words make. -/
def conditionOf (s : Shell) (words : List Text) (operator : Option Operator) : Decided Bool := do
  let (a, words) ← s.alternatives (4 * words.length + 8) operator words
  match words with
  | word :: _ :: _ => throw (word ++ ": unexpected operator".toList)
  | _ => return a

/-- The truth of the condition that words make.  One word holds if it is not empty.  Of two to four
words the meaning is fixed by an operator in the middle, by brackets around them, or by an
exclamation mark in front. -/
def condition (s : Shell) (words : List Text) : Decided Bool := do
  match words with
  | [] => return false
  | [word] => return !word.isEmpty
  | [['!'], word] => return word.isEmpty
  | [left, sign, right] =>
    if isBinary sign then s.conditionOf [left, sign, right] none
    else if left = ['('] && right = [')'] then s.conditionOf [sign] (operatorAt? [sign])
    else if left = ['!'] then return !(← s.conditionOf [sign, right] (operatorAt? [sign, right]))
    else s.conditionOf words (operatorAt? words)
  | [first, second, third, fourth] =>
    let inner := [second, third]
    if first = ['('] && fourth = [')'] then s.conditionOf inner (operatorAt? inner)
    else if first = ['!'] then
      let others := [second, third, fourth]
      if isBinary third then return !(← s.conditionOf others none)
      else if second = ['('] && fourth = [')'] then
        return !(← s.conditionOf [third] (operatorAt? [third]))
      -- a second exclamation mark has no effect
      else if second = ['!'] then
        return !(← s.conditionOf [third, fourth] (operatorAt? [third, fourth]))
      else return !(← s.conditionOf others (operatorAt? others))
    else s.conditionOf words (operatorAt? words)
  | words => s.conditionOf words (operatorAt? words)

end Shell

end NameTables.Script
