import NameTables.Script.Number
import NameTables.Script.Regex.Basic

/-!
# Reading regular expressions

There are two notations: a basic one, in which most operators have a backslash in front, and an
extended one, in which they have none.

## Main definitions

* `RegexFault` — what is wrong with a regular expression.
* `Regex.Notation` — the notations.
* `Regex.read` — the regular expression that a text tells.
-/

namespace NameTables.Script

/-- What is wrong with a regular expression. -/
inductive RegexFault
  /-- A bracket with nothing behind it. -/
  | malformed
  /-- A bracket is not closed. -/
  | openBracket
  /-- A parenthesis is not closed. -/
  | openGroup
  /-- A parenthesis is not opened. -/
  | closedGroup
  /-- A brace is not closed. -/
  | openBrace
  /-- What is between braces makes no sense. -/
  | braceContent
  /-- A range runs backwards. -/
  | range
  /-- There is no such class of characters. -/
  | className
  /-- There is no such character. -/
  | symbolName
  /-- There is nothing to repeat. -/
  | repetition
  /-- There is no group with the number. -/
  | reference
  /-- A backslash comes last. -/
  | backslash
  /-- A number is too great. -/
  | tooBig
  /-- A class of characters stands outside of brackets. -/
  | bareClass
  deriving DecidableEq, Repr

/-- The wording of a fault. -/
def RegexFault.message : RegexFault → Text
  | .malformed => "Invalid regular expression".toList
  | .openBracket => "Unmatched [, [^, [:, [., or [=".toList
  | .openGroup => "Unmatched ( or \\(".toList
  | .closedGroup => "Unmatched ) or \\)".toList
  | .openBrace => "Unmatched \\\x7b".toList
  | .braceContent => "Invalid content of \\\x7b\\\x7d".toList
  | .range => "Invalid range end".toList
  | .className => "Invalid character class name".toList
  | .symbolName => "Invalid collation character".toList
  | .repetition => "Invalid preceding regular expression".toList
  | .reference => "Invalid back reference".toList
  | .backslash => "Trailing backslash".toList
  | .tooBig => "Regular expression too big".toList
  | .bareClass => "character class syntax is [[:space:]], not [:space:]".toList

namespace Regex

/-- A notation. -/
structure Manner where
  /-- Are operators written without a backslash? -/
  extended : Bool
  /-- Is it allowed that nothing stands in front of a sign of repetition? -/
  lenient : Bool
  /-- Is a parenthesis that closes nothing a character? -/
  looseEnds : Bool
  /-- Do line ends count as the ends of the text? -/
  lines : Bool
  /-- Is it refused what looks like a class of characters, but is none? -/
  guarded : Bool

/-- The letters of classes that are not of ASCII. -/
def isForeignLetter (c : Char) : Bool :=
  let n := c.toNat
  !isStray c && ((0xc0 ≤ n && n < 0x2000 && n ≠ 0xd7 && n ≠ 0xf7) || n = 0xaa || n = 0xb5 || n = 0xba
    || (0x2c00 ≤ n && n < 0x2e00) || (0x3041 ≤ n && n < 0xd7a4) || (0xf900 ≤ n && n < 0xfe00)
    || (0x10000 ≤ n && n < 0x1d000) || (0x20000 ≤ n && n < 0x30000))

/-- The class of characters with a name. -/
def classOf? (name : Text) : Option (Char → Bool) :=
  let graphic := fun c : Char => ('!' ≤ c && c ≤ '~') || ('\x7f' < c && isShown c)
  match String.ofList name with
  | "alpha" => some fun c => c.isAlpha || isForeignLetter c
  | "digit" => some Char.isDigit
  | "alnum" => some fun c => c.isAlphanum || isForeignLetter c
  | "upper" => some Char.isUpper
  | "lower" => some Char.isLower
  | "space" => some fun c => c = ' ' || ('\t' ≤ c && c ≤ '\r')
  | "blank" => some fun c => c = ' ' || c = '\t'
  | "punct" => some fun c => graphic c && !c.isAlphanum && !isForeignLetter c
  | "graph" => some graphic
  | "print" => some fun c => graphic c || c = ' '
  | "cntrl" => some fun c => c < ' ' || c = '\x7f'
  | "xdigit" => some fun c => c.isDigit || ('a' ≤ c && c ≤ 'f') || ('A' ≤ c && c ≤ 'F')
  | _ => none

/-- What has been read of a regular expression. -/
structure Scan where
  /-- What is still to be read. -/
  rest : Text
  /-- How many groups have begun. -/
  groups : Nat
  /-- The groups that have ended. -/
  closed : List Nat
  /-- How many groups are open. -/
  depth : Nat

/-- Steps of reading. -/
abbrev Reading := StateT Scan (Except RegexFault)

/-! ### Brackets -/

/-- What stands between a bracket with a sign and the same again, and what follows. -/
def delimited? (sign : Char) : Text → Option (Text × Text)
  | [] => none
  | c :: rest =>
    if c = sign && rest.head? = some ']' then some ([], rest.tail)
    else (delimited? sign rest).map fun (inside, after) => (c :: inside, after)

/-- One character of a range, or a class. -/
inductive BracketPart
  /-- A character. -/
  | char (c : Char)
  /-- A class of characters. -/
  | named (accept : Char → Bool)

/-- The first part of what is between brackets, and what follows it. -/
def bracketPart : Text → Except RegexFault (BracketPart × Text)
  | '[' :: sign :: rest =>
    if sign ∈ [':', '.', '='] then
      match delimited? sign rest with
      | none => .error .openBracket
      | some (inside, after) =>
        if sign = ':' then
          match classOf? inside with
          | some accept => .ok (.named accept, after)
          | none => .error .className
        else
          match inside with
          | [c] => .ok (.char c, after)
          | _ => .error .symbolName
    else .ok (.char '[', sign :: rest)
  | c :: rest => .ok (.char c, rest)
  | [] => .error .openBracket

/-- What is between brackets, and what follows them. -/
def bracketParts : (fuel : Nat) → (first : Bool) → Text → List (Char × Char) →
    List (Char → Bool) → Except RegexFault (List (Char × Char) × List (Char → Bool) × Text)
  | 0, _, _, _, _ => .error .openBracket
  | fuel + 1, first, s, ranges, classes => do
    match s with
    | [] => throw .openBracket
    | ']' :: rest =>
      if first then bracketRange fuel (.char ']') rest ranges classes
      else return (ranges, classes, rest)
    | s =>
      let (part, rest) ← bracketPart s
      bracketRange fuel part rest ranges classes
where
  /-- Go on behind a part, which may be the beginning of a range. -/
  bracketRange (fuel : Nat) (part : BracketPart) (rest : Text) (ranges : List (Char × Char))
      (classes : List (Char → Bool)) :
      Except RegexFault (List (Char × Char) × List (Char → Bool) × Text) := do
    match part, rest with
    | .named accept, rest => bracketParts fuel false rest ranges (accept :: classes)
    | .char c, '-' :: d :: after =>
      if d = ']' then bracketParts fuel false rest ((c, c) :: ranges) classes
      else
        match ← bracketPart (d :: after) with
        | (.char d, after) =>
          if d < c then throw .range
          else bracketParts fuel false after ((c, d) :: ranges) classes
        | (.named _, _) => throw .range
    | .char c, rest => bracketParts fuel false rest ((c, c) :: ranges) classes

/-- Does what is between brackets look like a class of characters? -/
def looksLikeClass (s : Text) : Bool :=
  let inside := s.takeWhile (· ≠ ']')
  inside.head? = some ':' && inside.getLast? = some ':' && inside.any (· ≠ ':')
    && !inside.contains '-' && !inside.contains '['

/-- What brackets accept, and what follows them. -/
def bracket (guarded : Bool) (s : Text) : Except RegexFault (Accepted × Text) := do
  let (negated, s) := match s with
    | '^' :: rest => (true, rest)
    | s => (false, s)
  if s.isEmpty then throw .malformed
  if guarded && looksLikeClass s then throw .bareClass
  let (ranges, classes, rest) ← bracketParts (s.length + 1) true s [] []
  return (.among negated ranges classes, rest)

/-! ### Repetitions -/

/-- The greatest number of repetitions that can be told. -/
def repetitionLimit : Nat := 32767

/-- The bounds between braces, and what follows these; nothing if there are no bounds. -/
def bounds? (extended : Bool) (s : Text) : Except RegexFault (Option (Nat × Option Nat × Text)) :=
  let digits := s.takeWhile Char.isDigit
  let rest := s.drop digits.length
  let low := (digitsValue? 10 digits).getD 0
  let (most, rest, hasBoth) : Option Nat × Text × Bool :=
    match rest with
    | ',' :: rest =>
      let digits := rest.takeWhile Char.isDigit
      (digitsValue? 10 digits, rest.drop digits.length, true)
    | rest => (some low, rest, false)
  let isNothing := digits.isEmpty && !hasBoth
  let after : Option Text :=
    match extended, rest with
    | true, '}' :: after => some after
    | false, '\\' :: '}' :: after => some after
    | _, _ => none
  match after with
  | some after =>
    if isNothing then if extended then .ok none else .error .braceContent
    else if repetitionLimit < low || most.any (repetitionLimit < ·) then .error .tooBig
    else if most.any (· < low) then .error .braceContent
    else .ok (some (low, most, after))
  | none =>
    if extended then .ok none
    else if rest.isEmpty || rest = ['\\'] then .error .openBrace
    else .error .braceContent

/-- What a sign of repetition says, and what follows it. -/
def repetition? (m : Manner) (s : Text) : Except RegexFault (Option (Nat × Option Nat × Text)) :=
  match m.extended, s with
  | _, '*' :: rest => .ok (some (0, none, rest))
  | true, '+' :: rest => .ok (some (1, none, rest))
  | true, '?' :: rest => .ok (some (0, some 1, rest))
  | true, '{' :: rest => bounds? true rest
  | false, '\\' :: '+' :: rest => .ok (some (1, none, rest))
  | false, '\\' :: '?' :: rest => .ok (some (0, some 1, rest))
  | false, '\\' :: '{' :: rest => bounds? false rest
  | _, _ => .ok none

/-- A regular expression with the signs of repetition behind it. -/
def withRepetitions (m : Manner) : (fuel : Nat) → Regex → Reading Regex
  | 0, r => return r
  | fuel + 1, r => do
    let scan ← get
    match repetition? m scan.rest with
    | .error fault => throw fault
    | .ok none => return r
    | .ok (some (least, most, rest)) =>
      set { scan with rest }
      withRepetitions m fuel (.many least most r)

/-! ### Parts -/

/-- The operator that a text begins with and that ends a part: an alternative or the end of a
group; and what follows it. -/
inductive Ending
  /-- Another alternative. -/
  | alternative (rest : Text)
  /-- The end of a group. -/
  | close (rest : Text)
  /-- The end of all. -/
  | all

/-- The ending that a text begins with. -/
def ending? (m : Manner) (depth : Nat) (s : Text) : Option Ending :=
  match m.extended, s with
  | _, [] => some .all
  | true, '|' :: rest => some (.alternative rest)
  | true, ')' :: rest => if depth = 0 && m.looseEnds then none else some (.close rest)
  | false, '\\' :: '|' :: rest => some (.alternative rest)
  | false, '\\' :: ')' :: rest => some (.close rest)
  | _, _ => none

/-- The places that a letter behind a backslash stands for. -/
def pointOf? (c : Char) : Option Point :=
  match c with
  | '<' => some .wordStart
  | '>' => some .wordStop
  | 'b' => some .wordEdge
  | 'B' => some .noEdge
  | '`' => some .start
  | '\'' => some .stop
  | _ => none

/-- The characters that a letter behind a backslash stands for. -/
def shorthand? (c : Char) : Option Accepted :=
  let isSpace := fun c : Char => c = ' ' || ('\t' ≤ c && c ≤ '\r')
  match c with
  | 'w' => some (.among false [] [inWord])
  | 'W' => some (.among true [] [inWord])
  | 's' => some (.among false [] [isSpace])
  | 'S' => some (.among true [] [isSpace])
  | _ => none

mutual

/-- Alternatives. -/
def alternatives (m : Manner) : (fuel : Nat) → Reading Regex
  | 0 => return .empty
  | fuel + 1 => do
    let first ← parts m fuel true .empty
    let scan ← get
    match ending? m scan.depth scan.rest with
    | some (.alternative rest) =>
      set { scan with rest }
      return .either first (← alternatives m fuel)
    | some (.close _) => if scan.depth = 0 then throw .closedGroup else return first
    | _ => return first

/-- Parts one after another, behind those that were read already; `first` tells whether there are
none yet that can be repeated. -/
def parts (m : Manner) : (fuel : Nat) → (first : Bool) → Regex → Reading Regex
  | 0, _, r => return r
  | fuel + 1, first, before => do
    let scan ← get
    if (ending? m scan.depth scan.rest).isSome then return before
    let add := fun (r : Regex) =>
      match before with
      | .empty => r
      | before => .seq before r
    match m.extended, scan.rest with
    | extended, '^' :: rest =>
      if extended || first then
        set { scan with rest }
        let after := match (← get).rest with
          | '*' :: rest => if extended then if m.lenient then some rest else none else none
          | _ => none
        match after with
        | some rest => set { scan with rest }
        | none => pure ()
        parts m fuel true (add (.at (if m.lines then .lineStart else .start)))
      else part m fuel before
    | extended, '$' :: rest =>
      let isLast := extended || (ending? m scan.depth rest).isSome
      if isLast then
        set { scan with rest }
        parts m fuel (first && extended) (add (.at (if m.lines then .lineStop else .stop)))
      else part m fuel before
    | false, '*' :: rest =>
      if first then
        set { scan with rest }
        let r ← withRepetitions m fuel (.one (.char '*'))
        parts m fuel false (add r)
      else part m fuel before
    | true, c :: rest =>
      if first && (c ∈ ['*', '+', '?']) then
        if m.lenient then
          set { scan with rest }
          parts m fuel true before
        else throw .repetition
      else if first && c = '{' then
        match bounds? true rest with
        | .ok (some (_, _, rest)) =>
          if m.lenient then
            set { scan with rest }
            parts m fuel true before
          else throw .repetition
        | .error fault => throw fault
        | .ok none => if m.lenient then part m fuel before else throw .repetition
      else part m fuel before
    | _, _ => part m fuel before

/-- One part with its repetitions, and those behind it. -/
def part (m : Manner) : (fuel : Nat) → Regex → Reading Regex
  | 0, r => return r
  | fuel + 1, before => do
    let scan ← get
    let add := fun (r : Regex) =>
      match before with
      | .empty => r
      | before => .seq before r
    let single := fun (a : Accepted) (rest : Text) => do
      set { scan with rest }
      let r ← withRepetitions m fuel (.one a)
      parts m fuel false (add r)
    let group := fun (rest : Text) => do
      let n := scan.groups + 1
      set { scan with rest, groups := n, depth := scan.depth + 1 }
      let inside ← alternatives m fuel
      let scan ← get
      match ending? m scan.depth scan.rest with
      | some (.close rest) =>
        set { scan with rest, depth := scan.depth - 1, closed := n :: scan.closed }
        let r ← withRepetitions m fuel (.group n inside)
        parts m fuel false (add r)
      | _ => throw .openGroup
    match m.extended, scan.rest with
    | _, [] => return before
    | _, '[' :: rest =>
      match bracket m.guarded rest with
      | .error fault => throw fault
      | .ok (a, rest) => single a rest
    | _, '.' :: rest => single .any rest
    | true, '(' :: rest => group rest
    | false, '\\' :: '(' :: rest => group rest
    | _, '\\' :: c :: rest =>
      match pointOf? c, shorthand? c with
      | some p, _ =>
        set { scan with rest }
        let r ← withRepetitions m fuel (.at p)
        parts m fuel false (add r)
      | none, some a => single a rest
      | none, none =>
        if c.isDigit && c ≠ '0' then
          let n := c.toNat - '0'.toNat
          if n ∈ scan.closed then
            set { scan with rest }
            let r ← withRepetitions m fuel (.again n)
            parts m fuel false (add r)
          else throw .reference
        else if !m.extended && c = '{' then
          throw (if m.lenient then .repetition else .repetition)
        else single (.char c) rest
    | _, ['\\'] => throw .backslash
    | _, c :: rest => single (.char c) rest

end

/-- The regular expression that a text tells, and how many groups it has. -/
def read (m : Manner) (s : Text) : Except RegexFault (Regex × Nat) := do
  let (r, scan) ← (alternatives m (4 * s.length + 8)).run ⟨s, 0, [], 0⟩
  return (r, scan.groups)

end Regex

end NameTables.Script
