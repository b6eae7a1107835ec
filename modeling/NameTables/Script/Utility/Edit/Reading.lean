import NameTables.Script.Utility.Edit.Program

/-!
# Reading programs that edit lines

A program is given in pieces, and what is wrong with it is told with the piece and the number of the
character in it that was read last.

## Main definitions

* `Edit.Fault` — what is wrong with a program.
* `Edit.readProgram` — the program that pieces of text tell.
-/

namespace NameTables.Script.Edit

/-- Where something is wrong with a program. -/
inductive FaultPlace
  /-- At no place of its own. -/
  | nowhere
  /-- Behind so many characters. -/
  | behind (count : Nat)
  /-- In the piece with a block that begins behind so many characters. -/
  | block (count : Nat)

/-- What is wrong with a program. -/
structure Fault where
  /-- Where it is. -/
  place : FaultPlace
  /-- What is wrong. -/
  message : Text

/-- A block that is open. -/
structure OpenBlock where
  /-- The number of its instruction. -/
  start : Nat
  /-- What stands in front of it. -/
  lines : Addressing
  /-- Behind how many characters it begins. -/
  place : Nat

/-- What is known while a program is read. -/
structure Scan where
  /-- What is still to be read. -/
  rest : Text
  /-- How many characters there are in all. -/
  size : Nat
  /-- Is the notation of regular expressions the extended one? -/
  extended : Bool
  /-- The blocks that are open, the innermost first. -/
  blocks : List OpenBlock
  /-- The instructions so far. -/
  done : Program

/-- Steps of reading. -/
abbrev Reading := StateT Scan (Except Fault)

namespace Reading

/-- Break off with a message about what was read last. -/
def fail {α : Type} (message : String) : Reading α := do
  let scan ← get
  throw ⟨.behind (scan.size - scan.rest.length), message.toList⟩

/-- The next character, if there is one. -/
def next? : Reading (Option Char) := do
  let scan ← get
  match scan.rest with
  | [] => return none
  | c :: rest =>
    set { scan with rest }
    return some c

/-- The next character, which stays. -/
def peek? : Reading (Option Char) := return (← get).rest.head?

/-- Take characters as long as they are accepted. -/
def takeWhile (accept : Char → Bool) : Reading Text := do
  let scan ← get
  let taken := scan.rest.takeWhile accept
  set { scan with rest := scan.rest.drop taken.length }
  return taken

/-- Is the character a blank within a line? -/
def isSpace (c : Char) : Bool := c ≠ '\n' && isBlankChar c

/-- A number. -/
def number : Reading Nat := return (digitsValue? 10 (← takeWhile Char.isDigit)).getD 0

/-- What stands before a delimiter, in which the delimiter itself may have a backslash in front;
nothing if there is no delimiter.  In a regular expression brackets keep it from being one. -/
def delimited? (delimiter : Char) (isRegex : Bool) : Reading (Option Text) := do
  let scan ← get
  match go scan.rest.length scan.rest [] with
  | none =>
    -- a line end ends the attempt
    let isEnd := fun c : Char => isRegex && c = '\n'
    let taken := scan.rest.takeWhile (!isEnd ·)
    set { scan with rest := scan.rest.drop taken.length }
    return none
  | some (taken, rest) =>
    set { scan with rest }
    return some taken
where
  /-- The brackets at the beginning of a text, as they are written, and what follows them. -/
  brackets (s : Text) : Text × Text :=
    let lead := if s.head? = some '^' then ['^'] else []
    let s := s.drop lead.length
    let first := if s.head? = some ']' then [']'] else []
    let (inside, rest) := inner s.length (s.drop first.length) []
    (lead ++ first ++ inside, rest)
  /-- What stands up to the closing bracket, with it, behind what was taken already. -/
  inner : (fuel : Nat) → Text → (taken : Text) → Text × Text
    | fuel + 1, '[' :: sign :: rest, taken =>
      if sign ∈ [':', '.', '='] then
        match Regex.delimited? sign rest with
        | some (name, after) =>
          inner fuel after ((['[', sign] ++ name ++ [sign, ']']).reverse ++ taken)
        | none => inner fuel (sign :: rest) ('[' :: taken)
      else inner fuel (sign :: rest) ('[' :: taken)
    | _ + 1, ']' :: rest, taken => ((']' :: taken).reverse, rest)
    | fuel + 1, c :: rest, taken => inner fuel rest (c :: taken)
    | _, rest, taken => (taken.reverse, rest)
  /-- The same for a text of so many characters at most, behind what was taken already. -/
  go : (fuel : Nat) → Text → (taken : Text) → Option (Text × Text)
    | fuel + 1, c :: rest, taken =>
      if c = delimiter then some (taken.reverse, rest)
      else if c = '\\' then
        match rest with
        | d :: rest =>
          if d = delimiter then go fuel rest (d :: taken)
          else if d = 'n' && isRegex then go fuel rest ('\n' :: taken)
          else go fuel rest (d :: '\\' :: taken)
        | [] => none
      else if c = '\n' && isRegex then none
      else if c = '[' && isRegex then
        let (inside, rest) := brackets rest
        if rest.isEmpty then none else go fuel rest (inside.reverse ++ '[' :: taken)
      else go fuel rest (c :: taken)
    | _, _, _ => none

/-- The character that an escape with a number stands for, and what follows it. -/
def codeAt? (s : Text) : Option (Char × Text) :=
  let coded := fun (base width : Nat) (rest : Text) =>
    let digits := (rest.take width).takeWhile fun c => (digitsValue? base [c]).isSome
    (digitsValue? base digits).map fun n => (Char.ofNat (n % 256), rest.drop digits.length)
  match s with
  | 'x' :: rest => coded 16 2 rest
  | 'o' :: rest => coded 8 3 rest
  | 'd' :: rest => coded 10 3 rest
  | 'c' :: c :: rest => some (Char.ofNat (c.toUpper.toNat ^^^ 64), rest)
  | _ => none

/-- The character that a letter behind a backslash stands for everywhere. -/
def escape? (c : Char) : Option Char :=
  match c with
  | 'a' => some '\x07'
  | 'f' => some '\x0c'
  | 'n' => some '\n'
  | 'r' => some '\r'
  | 't' => some '\t'
  | 'v' => some '\x0b'
  | _ => none

/-- A regular expression in which escapes stand for their characters; one that would mean something
keeps a backslash. -/
def unescaped : (fuel : Nat) → Text → Text
  | 0, s => s
  | _, [] => []
  | fuel + 1, '\\' :: c :: rest =>
    match codeAt? (c :: rest), escape? c with
    | some (d, after), _ =>
      (if d ∈ "*[]^$.\\/+?(){}|".toList then ['\\', d] else [d]) ++ unescaped fuel after
    | none, some d => d :: unescaped fuel rest
    | none, none => '\\' :: c :: unescaped fuel rest
  | fuel + 1, c :: rest => c :: unescaped fuel rest

/-- The expression that a text with its flags tells. -/
def expression (source : Text) (anyCase lines : Bool) : Reading (Expression × Nat) := do
  let scan ← get
  if source.isEmpty then return (⟨none, anyCase⟩, 0)
  else
    let text := unescaped (source.length + 1) source
    match Regex.read ⟨scan.extended, false, false, lines, true⟩ text with
    | .ok (r, groups) => return (⟨some r, anyCase⟩, groups)
    | .error .bareClass => throw ⟨.nowhere, RegexFault.bareClass.message⟩
    | .error fault => throw ⟨.behind (scan.size - scan.rest.length), fault.message⟩

/-! ### Addresses -/

/-- The address that comes next, if any. -/
def address? : Reading (Option Address) := do
  match ← peek? with
  | some '$' =>
    let _ ← next?
    return some .last
  | some c =>
    if c.isDigit then
      let n ← number
      let _ ← takeWhile isSpace
      if (← peek?) = some '~' then
        let _ ← next?
        let _ ← takeWhile isSpace
        let step ← number
        return some (if step = 0 then .line n else .every n step)
      else return some (.line n)
    else if c = '/' || c = '\\' then
      let _ ← next?
      let delimiter ← if c = '/' then pure (some '/') else next?
      match delimiter with
      | none => fail "unexpected end of regex"
      | some delimiter =>
        match ← delimited? delimiter true with
        | none => fail "unterminated address regex"
        | some source =>
          let flags ← takeWhile (· ∈ ['I', 'M'])
          let (e, _) ← expression source ('I' ∈ flags) ('M' ∈ flags)
          return some (.matching e)
    else return none
  | none => return none

/-- The end of a range. -/
def rangeEnd : Reading RangeEnd := do
  match ← peek? with
  | some '+' =>
    let _ ← next?
    return .after (← number)
  | some '~' =>
    let _ ← next?
    return .multiple (← number)
  | _ =>
    match ← address? with
    | some a => return .address a
    | none =>
      -- the character that cannot begin an address counts as read
      let _ ← next?
      fail "unexpected `,'"

/-- The lines for which an instruction is carried out. -/
def addressing : Reading Addressing := do
  let first ← address?
  let _ ← takeWhile isSpace
  let last ←
    if first.isSome && (← peek?) = some ',' then do
      let _ ← next?
      let _ ← takeWhile isSpace
      let found ← rangeEnd
      let _ ← takeWhile isSpace
      pure (some found)
    else pure none
  let isZero := match first with | some (.line 0) => true | _ => false
  let endsInMatch := match last with | some (.address (.matching _)) => true | _ => false
  if isZero && !endsInMatch then
    let _ ← next?
    fail "invalid usage of line address 0"
  else if (← peek?) = some '!' then
    let _ ← next?
    let _ ← takeWhile isSpace
    if (← peek?) = some '!' then
      let _ ← next?
      fail "multiple `!'s"
    else return ⟨first, last, true⟩
  else return ⟨first, last, false⟩

/-! ### What follows instructions -/

/-- The end of an instruction: a line end, a semicolon, a comment, or the end of a block. -/
def ending : Reading Unit := do
  let _ ← takeWhile isSpace
  match ← peek? with
  | none => return
  | some '}' => return
  | some '#' => return
  | some c =>
    let _ ← next?
    if c ≠ '\n' && c ≠ ';' then fail "extra characters after command"

/-- The name of a file: all that is left of the line. -/
def fileName : Reading Text := do
  let _ ← takeWhile isSpace
  let name ← takeWhile (· ≠ '\n')
  if name.isEmpty then fail "missing filename in r/R/w/W commands"
  else
    let _ ← next?
    return octetsOf name

/-- The text of an instruction: the rest of the line, and the lines that follow one with a backslash
at its end. -/
def body : Reading Text := do
  let _ ← takeWhile isSpace
  match ← peek? with
  | none => fail "expected \\ after `a', `c' or `i'"
  | some '\\' =>
    let _ ← next?
    let blanks ← takeWhile isSpace
    match ← peek? with
    | some '\n' =>
      let _ ← next?
      lines
    | some _ =>
      modify fun scan => { scan with rest := blanks ++ scan.rest }
      lines
    | none => if blanks.isEmpty then return [] else lines
  | some _ => lines
where
  /-- The lines of the text, each with its end. -/
  lines : Reading Text := do
    let scan ← get
    let (s, rest) := go scan.rest.length scan.rest []
    set { scan with rest }
    return octetsOf (s ++ ['\n'])
  /-- The same, for so many characters at most. -/
  go : (fuel : Nat) → Text → (taken : Text) → Text × Text
    | fuel + 1, c :: rest, taken =>
      if c = '\n' then (taken.reverse, rest)
      else if c = '\\' then
        match codeAt? rest, rest with
        | some (d, after), _ => go fuel after (d :: taken)
        | none, d :: after =>
          match if taken.isEmpty then none else escape? d with
          | some e => go fuel after (e :: taken)
          | none => go fuel after (d :: taken)
        | none, [] => (taken.reverse, [])
      else go fuel rest (c :: taken)
    | _, rest, taken => (taken.reverse, rest)

/-- A label: what is left up to a blank or a semicolon. -/
def labelName : Reading Text := do
  let _ ← takeWhile isSpace
  let name ← takeWhile fun c => c ≠ '\n' && c ≠ ';' && !isSpace c
  return name

/-! ### Substitutions -/

/-- The parts of what something is replaced by. -/
def partsOf : (fuel : Nat) → Text → (taken : Text) → List Part
  | 0, _, _ => []
  | _, [], taken => flush taken []
  | fuel + 1, '\\' :: c :: rest, taken =>
    let part := fun (p : Part) => flush taken (p :: partsOf fuel rest [])
    if c.isDigit then part (.group (c.toNat - '0'.toNat))
    else
      match c with
      | 'L' => part (.casing .lower)
      | 'U' => part (.casing .upper)
      | 'E' => part (.casing .keep)
      | 'l' => part (.once .lower)
      | 'u' => part (.once .upper)
      | '&' => partsOf fuel rest ('&' :: taken)
      | c =>
        match codeAt? (c :: rest), escape? c with
        | some (d, after), _ => partsOf fuel after (d :: taken)
        | none, some d => partsOf fuel rest (d :: taken)
        | none, none => partsOf fuel rest (c :: taken)
  | fuel + 1, '&' :: rest, taken => flush taken (.group 0 :: partsOf fuel rest [])
  | fuel + 1, c :: rest, taken => partsOf fuel rest (c :: taken)
where
  /-- The text that was taken in front of other parts. -/
  flush (taken : Text) (parts : List Part) : List Part :=
    if taken.isEmpty then parts else .text taken.reverse :: parts

/-- The flags behind a substitution. -/
structure Flags where
  /-- Which match is the first one that is replaced. -/
  first : Option Nat
  /-- Are all further ones replaced? -/
  all : Bool
  /-- Is the result printed? -/
  prints : Bool
  /-- Is the case of letters of no concern? -/
  anyCase : Bool
  /-- Do lines count? -/
  lines : Bool
  /-- Is the result carried out? -/
  runs : Bool
  /-- The file to which the result is written. -/
  file : Option Text

/-- The flags behind a substitution, after those that were read already. -/
def flags : (fuel : Nat) → Flags → Reading Flags
  | 0, f => return f
  | fuel + 1, f => do
    match ← peek? with
    | none => return f
    | some '}' => return f
    | some '#' => return f
    | some c =>
      if c.isDigit then
        let n ← number
        if n = 0 then fail "number option to `s' command may not be zero"
        else if f.first.isSome then fail "multiple number options to `s' command"
        else flags fuel { f with first := some n }
      else
        let _ ← next?
        match c with
        | 'g' =>
          if f.all then fail "multiple `g' options to `s' command"
          else flags fuel { f with all := true }
        | 'p' =>
          if f.prints then fail "multiple `p' options to `s' command"
          else flags fuel { f with prints := true }
        | 'i' => flags fuel { f with anyCase := true }
        | 'I' => flags fuel { f with anyCase := true }
        | 'm' => flags fuel { f with lines := true }
        | 'M' => flags fuel { f with lines := true }
        | 'e' => flags fuel { f with runs := true }
        | 'w' => return { f with file := some (← fileName) }
        | '\n' => return f
        | ';' => return f
        | c => if isSpace c then flags fuel f else fail "unknown option to `s'"

/-- A substitution. -/
def substitution : Reading Action := do
  match ← next? with
  | none => fail "unterminated `s' command"
  | some delimiter =>
    match ← delimited? delimiter true with
    | none => fail "unterminated `s' command"
    | some source =>
      match ← delimited? delimiter false with
      | none => fail "unterminated `s' command"
      | some replacement =>
        let f ← flags (← get).size ⟨none, false, false, false, false, false, none⟩
        let (e, groups) ← expression source f.anyCase f.lines
        let parts := partsOf (replacement.length + 1) replacement []
        let greatest := parts.foldl (fun n part =>
          match part with | .group k => max n k | _ => n) 0
        if groups < greatest && e.regex.isSome then
          let scan ← get
          throw ⟨.behind (scan.size - scan.rest.length),
            "invalid reference \\".toList ++ Text.ofNat greatest ++ " on `s' command's RHS".toList⟩
        else return .substitute ⟨e, parts, f.first.getD 1, f.all, f.prints, f.runs, f.file⟩

/-- The characters of a text in which a backslash stands in front of some. -/
def plainCharacters (delimiter : Char) : Text → Text
  | '\\' :: c :: rest =>
    if c = '\\' || c = delimiter then c :: plainCharacters delimiter rest
    else
      match escape? c with
      | some d => d :: plainCharacters delimiter rest
      | none => '\\' :: c :: plainCharacters delimiter rest
  | c :: rest => c :: plainCharacters delimiter rest
  | [] => []

/-- Characters that are replaced by others. -/
def translation : Reading Action := do
  match ← next? with
  | none => fail "unterminated `y' command"
  | some delimiter =>
    match ← delimited? delimiter false, ← delimited? delimiter false with
    | some source, some target =>
      let (a, b) := (plainCharacters delimiter source, plainCharacters delimiter target)
      if a.length ≠ b.length then fail "strings for `y' command are different lengths"
      else
        ending
        return .translate (a.zip b)
    | _, _ => fail "unterminated `y' command"

/-! ### Instructions -/

/-- Add an instruction. -/
def add (lines : Addressing) (action : Action) : Reading Unit :=
  modify fun scan => { scan with done := scan.done.push ⟨lines, action⟩ }

/-- The action that a letter tells, with what belongs to it. -/
def action (c : Char) : Reading Action := do
  let simple := fun (a : Action) => do
    ending
    return a
  let status := fun (make : Nat → Action) => do
    let _ ← takeWhile isSpace
    let n ← number
    ending
    return make n
  let label := fun (make : Text → Action) => do
    let name ← labelName
    ending
    return make name
  match c with
  | '=' => simple .tellNumber
  | 'a' => return .append (← body)
  | 'i' => return .insert (← body)
  | 'c' => return .change (← body)
  | 'b' => label .jump
  | 't' => label .jumpIf
  | 'T' => label .jumpUnless
  | 'd' => simple .drop
  | 'D' => simple .dropLine
  | 'e' =>
    let _ ← takeWhile isSpace
    let command ← takeWhile (· ≠ '\n')
    let _ ← next?
    return .run (octetsOf command)
  | 'F' => simple .tellName
  | 'g' => simple .get
  | 'G' => simple .addKept
  | 'h' => simple .keep
  | 'H' => simple .addToKept
  | 'x' => simple .swap
  | 'l' =>
    let _ ← takeWhile isSpace
    let digits ← takeWhile Char.isDigit
    ending
    return .show (digitsValue? 10 digits)
  | 'n' => simple .next
  | 'N' => simple .addNext
  | 'p' => simple .print
  | 'P' => simple .printLine
  | 'q' => status .quit
  | 'Q' => status .abort
  | 'r' => return .read (← fileName)
  | 'R' => return .readLine (← fileName)
  | 'w' => return .write (← fileName)
  | 'W' => return .writeLine (← fileName)
  | 's' => substitution
  | 'y' => translation
  | 'z' => simple .clear
  | 'v' =>
    let _ ← takeWhile fun c => c ≠ '\n' && c ≠ ';'
    ending
    return .nothing
  | c =>
    let scan ← get
    throw ⟨.behind (scan.size - scan.rest.length), "unknown command: `".toList ++ c :: ['\'']⟩

/-- All instructions that are left. -/
def instructions : (fuel : Nat) → Reading Unit
  | 0 => return
  | fuel + 1 => do
    let _ ← takeWhile fun c => isBlankChar c || c = ';'
    if (← peek?).isNone then
      if let block :: _ := (← get).blocks then throw ⟨.block block.place, "unmatched `\x7b'".toList⟩
    else
      let lines ← addressing
      let _ ← takeWhile isSpace
      match ← next? with
      | none => fail "missing command"
      | some '#' =>
        if lines.first.isSome then fail "comments don't accept any addresses"
        let _ ← takeWhile (· ≠ '\n')
      | some '{' =>
        modify fun scan => { scan with
          blocks := ⟨scan.done.size, lines, scan.size - scan.rest.length⟩ :: scan.blocks }
        add lines (.block 0)
      | some '}' =>
        if lines.first.isSome then fail "\x7d doesn't want any addresses"
        let scan ← get
        match scan.blocks with
        | [] => fail "unexpected `\x7d'"
        | block :: blocks =>
          set { scan with
            blocks
            done := scan.done.setIfInBounds block.start ⟨block.lines, .block scan.done.size⟩ }
          ending
      | some ':' =>
        if lines.first.isSome then fail ": doesn't want any addresses"
        let _ ← takeWhile isSpace
        let name ← takeWhile fun c => c ≠ '\n' && c ≠ ';' && !isSpace c
        if name.isEmpty then fail "\":\" lacks a label"
        let _ ← takeWhile isSpace
        add lines (.label name)
      | some c =>
        let a ← action c
        add lines a
      instructions fuel

end Reading

/-- The jump in a program to a label that is not there. -/
def lostLabel? (p : Program) : Option Text :=
  p.toList.findSome? fun i =>
    let lost := fun name : Text =>
      if name.isEmpty || (placeOf? p name).isSome then none else some name
    match i.action with
    | .jump name => lost name
    | .jumpIf name => lost name
    | .jumpUnless name => lost name
    | _ => none

/-- A piece of a program. -/
structure Piece where
  /-- The file that it comes from; none if it was given as a word. -/
  file : Option Text
  /-- The text. -/
  text : Text

/-- What is said of a fault in a program that was given in pieces: in a word it is told by its
character, in a file by its line. -/
def Fault.text (pieces : List Piece) (fault : Fault) : Text :=
  match fault.place with
  | .nowhere => fault.message
  | .behind count => locate false pieces 1 count ++ ": ".toList ++ fault.message
  | .block count => locate true pieces 1 count ++ ": ".toList ++ fault.message
where
  /-- The piece that a position is in, and the position in that piece unless a block is meant; the
  words that come before the piece are counted. -/
  locate (isBlock : Bool) : List Piece → (number : Nat) → (count : Nat) → Text
    | [], _, _ => []
    | piece :: rest, number, count =>
      if count ≤ piece.text.length || rest.isEmpty then
        match piece.file with
        | some file =>
          let lines := ((piece.text.take count).count '\n') + 1
          "file ".toList ++ file ++ " line ".toList ++ Text.ofNat lines
        | none =>
          "-e expression #".toList ++ Text.ofNat number ++ ", char ".toList
            ++ Text.ofNat (if isBlock then 0 else count)
      else
        locate isBlock rest (if piece.file.isSome then number else number + 1)
          (count - piece.text.length - 1)

/-- The program that pieces of text tell. -/
def readProgram (extended : Bool) (pieces : List Piece) : Except Fault Program := do
  let s := Text.join ['\n'] (pieces.map Piece.text)
  let (_, scan) ← (Reading.instructions (s.length + 2)).run ⟨s, s.length, extended, [], #[]⟩
  match lostLabel? scan.done with
  | some name =>
    throw ⟨.nowhere, "can't find label for jump to `".toList ++ octetsOf name ++ ['\'']⟩
  | none => return scan.done

end NameTables.Script.Edit
