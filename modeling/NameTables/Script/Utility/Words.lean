import NameTables.Script.Condition
import NameTables.Script.Format
import NameTables.Script.Utility.Basic

/-!
# Programs for words

The programs that print their arguments, or what they can tell of them without looking at any file:
lines, formats, the parts of paths, the variables they get.

## Main definitions

* `printLine`, `printFormat`, `printOnAndOn` — arguments, as they are or by a format.
* `lastPart`, `leadingPart` — the parts of paths.
* `decide` — the truth of a condition.
* `pause` — nothing, for some time.
-/

namespace NameTables.Script.Utility

/-! ### Lines and formats -/

/-- The text in which the escapes that lines have stand for their characters, and whether one has
ended it. -/
def unescapeLine : (fuel : Nat) → Text → Text × Bool
  | 0, s => (s, false)
  | _ + 1, [] => ([], false)
  | fuel + 1, '\\' :: s =>
    let isPlain := s.head?.any (· ∈ ['\x22', 'u', 'U'])
    let octal := s.head? = some '0'
    let digits := ((s.drop 1).take 3).takeWhile isOctal
    let lead := if octal then some ([octalChar digits], digits.length + 1) else escapeLead s
    match if isPlain then some (['\\'], 0) else lead with
    | none => ([], true)
    | some (found, n) =>
      let (more, ended) := unescapeLine fuel (s.drop n)
      (found ++ more, ended)
  | fuel + 1, c :: s =>
    let (more, ended) := unescapeLine fuel s
    (c :: more, ended)

/-- Print a line.  Escapes have a meaning only if that is asked for. -/
def printLine : Utility := fun args =>
  let isOption := fun word : Text =>
    match word with
    | '-' :: c :: more => (c :: more).all (· ∈ ['n', 'e', 'E'])
    | _ => false
  let options := (args.takeWhile isOption).flatMap (·.drop 1)
  let text := Text.join [' '] (args.dropWhile isOption)
  let escapes := (options.filter fun c => c ≠ 'n').getLast? = some 'e'
  let (text, ended) := if escapes then unescapeLine (text.length + 1) text else (text, false)
  Run.print (if 'n' ∈ options || ended then text else text ++ ['\n'])

/-- The wording of a fault in a format. -/
def formatMessage : FormatFault → Text
  | .noNumber arg => inCurlyQuotes arg ++ ": expected a numeric value".toList
  | .partNumber arg => inCurlyQuotes arg ++ ": value not completely converted".toList
  | .beyond arg => inCurlyQuotes arg ++ ": Numerical result out of range".toList
  | .unfinished => "%: invalid conversion specification".toList
  | .noConversion directive => '%' :: directive ++ ": invalid conversion specification".toList

/-- Print by a format. -/
def printFormat : Utility := fun args => do
  match (match args with | ['-', '-'] :: rest => rest | args => args) with
  | [] => modify (·.misuse "missing operand".toList)
  | format :: args =>
    let printed := formatText .rich format args
    let broken := printed.going = .broken
    if broken then Run.print printed.text
    for fault in printed.faults do
      Run.fail (formatMessage fault)
    if !broken then Run.print printed.text
    -- arguments that the format does not ask for are told of
    match printed.asked || broken, args with
    | false, arg :: _ =>
      Run.say ("warning: ignoring excess arguments, starting with ".toList ++ inCurlyQuotes arg)
    | _, _ => pure ()

/-- How many characters of a text without end are printed at once. -/
def endlessChunk : Nat := 8192

/-- The time that takes. -/
def endlessTime : Nat := 1000000

/-- Print a line again and again. -/
def printOnAndOn : Utility :=
  Usage.program ⟨"", "", []⟩ fun _ words => do
    let line := (if words.isEmpty then ['y'] else Text.join [' '] words) ++ ['\n']
    let chunk := (List.replicate (endlessChunk / line.length + 1) line).flatten
    repeatWhile (fun (_ : Unit) => do
      Run.printAs "standard output" 1 chunk
      Run.pass endlessTime
      return if ← Run.goes then some () else none) (← get).stepsLeft ()

/-! ### Paths -/

/-- The last part of a path, without an ending if that is not all of it. -/
def lastPart (p ending : Text) : Text :=
  let trimmed := p.reverse.dropWhile (· = '/')
  let name :=
    if trimmed.isEmpty then p.take 1 else (trimmed.takeWhile (· ≠ '/')).reverse
  match Text.dropLead? ending.reverse name.reverse with
  | some (c :: rest) => if name = ['/'] then name else (c :: rest).reverse
  | _ => name

/-- Print the last parts of paths, without an ending that is told. -/
def lastParts : Utility :=
  let usage : Usage := ⟨"az", "s", [("multiple", 'a'), ("suffix", 's'), ("zero", 'z')]⟩
  fun args =>
    match usage.splitFrom true args with
    | .error said => modify (·.misuse said)
    | .ok (options, names) =>
      let stop := if isGiven 'z' options then ['\x00'] else ['\n']
      let suffix := wordOf? 's' options
      if names.isEmpty then modify (·.misuse "missing operand".toList)
      else if isGiven 'a' options || suffix.isSome then
        Run.print (names.flatMap fun name => lastPart name (suffix.getD []) ++ stop)
      else
        match names with
        | [name] => Run.print (lastPart name [] ++ stop)
        | [name, ending] => Run.print (lastPart name ending ++ stop)
        | _ :: _ :: extra :: _ =>
          modify (·.misuse ("extra operand ".toList ++ inCurlyQuotes extra))
        | [] => return

/-- All of a path but its last part. -/
def leadingPart (p : Text) : Text :=
  let trimmed := p.reverse.dropWhile (· = '/')
  let dir := ((trimmed.dropWhile (· ≠ '/')).dropWhile (· = '/')).reverse
  if !dir.isEmpty then dir else if p.head? = some '/' then ['/'] else ['.']

/-- Print all of paths but their last parts. -/
def leadingParts : Utility :=
  Usage.program ⟨"z", "", [("zero", 'z')]⟩ fun options names =>
    if names.isEmpty then modify (·.misuse "missing operand".toList)
    else
      let stop := if isGiven 'z' options then ['\x00'] else ['\n']
      Run.print (names.flatMap fun name => leadingPart name ++ stop)

/-- Print the path of the current directory. -/
def tellDirectory : Utility :=
  Usage.program ⟨"LP", "", [("logical", 'L'), ("physical", 'P')]⟩ fun options words => do
    if !words.isEmpty then Run.say "ignoring non-option arguments".toList
    let s ← get
    let physical := octets s.files.herePath.text
    let isLogical := (options.getLast?.map Prod.fst) = some 'L'
    let logical :=
      match s.bindings.get? "PWD".toList with
      | some p =>
        let leadsHere := (s.files.locate (Shell.path p)).toOption = some s.files.here
        if p.head? = some '/' && leadsHere then p else physical
      | none => physical
    Run.print ((if isLogical then logical else physical) ++ ['\n'])

/-- Print the variables that programs get, or the values of some. -/
def tellVariables : Utility :=
  Usage.programOr ⟨"0", "", [("null", '0')]⟩ 2 fun options names => do
    let stop := if isGiven '0' options then '\x00' else '\n'
    let s ← get
    let found := s.bindings.filter fun v => v.1 ∈ s.exported
    if names.isEmpty then
      Run.print (found.flatMap fun (name, value) => name ++ '=' :: value ++ [stop])
    else
      let values := names.map fun name =>
        if '=' ∈ name then none else List.lookup name found
      modify (·.ofTest (values.all Option.isSome))
      Run.print (values.flatMap fun value => (value.map (· ++ [stop])).getD [])

/-! ### Conditions -/

/-- Take the words of a condition one by one.  What is wrong is an exception. -/
abbrev Deciding := StateT (List Text) (Except Text)

namespace Deciding

/-- Is the word a hyphen with a letter? -/
def isLetter (word : Text) : Bool :=
  match word with
  | ['-', _] => true
  | _ => false

/-- Pass over a word. -/
def skip : Deciding Unit := modify List.tail

/-- There has to be another word. -/
def demand (words : List Text) : Deciding Unit := do
  if (← get).isEmpty then
    throw ("missing argument after ".toList ++ inCurlyQuotes (words.getLast?.getD []))

/-- Do words hold an operator between two? -/
def isSign (word : Text) : Bool :=
  match operatorOf? word with
  | some (.binary _) => true
  | _ => false

/-- The number in a word. -/
def number (word : Text) : Deciding Int :=
  let trimmed := (word.dropWhile isBlankChar).reverse.dropWhile isBlankChar |>.reverse
  let digits := match trimmed with
    | '-' :: s => s
    | '+' :: s => s
    | s => s
  match digitsValue? 10 digits with
  | some n => return if trimmed.head? = some '-' then -(n : Int) else n
  | none => throw ("invalid integer ".toList ++ inCurlyQuotes word)

/-- The truth of what an operator says of two words. -/
def binary (s : Shell) (left sign right : Text) : Deciding Bool := do
  if sign.length = 3 && sign ∉ ["-nt".toList, "-ot".toList, "-ef".toList] then
    let (a, b) := (← number left, ← number right)
    return match String.ofList sign with
      | "-eq" => a = b
      | "-ne" => a ≠ b
      | "-lt" => a < b
      | "-le" => a ≤ b
      | "-gt" => b < a
      | _ => b ≤ a
  else
    match s.binaryCondition sign left right with
    | .ok found => return found
    | .error said => throw said

/-- The truth of one word. -/
def one : Deciding Bool := do
  let word := (← get).head?.getD []
  skip
  return !word.isEmpty

/-- The truth of what a hyphen and a letter say of a word, of all these words. -/
def unary (s : Shell) (words : List Text) : Deciding Bool := do
  let sign := (← get).head?.getD []
  match operatorOf? sign with
  | some (.unary c) =>
    skip
    demand words
    let word := (← get).head?.getD []
    skip
    if c = 't' then
      let _ ← number word
      return false
    match s.unaryCondition c word with
    | .ok found => return found
    | .error said => throw said
  | _ => throw (inCurlyQuotes sign ++ ": unary operator expected".toList)

/-- The truth of two words. -/
def two (s : Shell) (words : List Text) : Deciding Bool := do
  let word := (← get).head?.getD []
  if word = ['!'] then
    skip
    return !(← one)
  else if isLetter word then unary s words
  else throw ("missing argument after ".toList ++ inCurlyQuotes (words.getLast?.getD []))

mutual

/-- The truth of three words. -/
def three (s : Shell) (words : List Text) : (fuel : Nat) → Deciding Bool
  | 0 => return false
  | fuel + 1 => do
    match ← get with
    | a :: b :: c :: _ =>
      if isSign b then
        modify (List.drop 3)
        binary s a b c
      else if a = ['!'] then
        skip
        return !(← two s words)
      else if a = ['('] && c = [')'] then
        skip
        let found ← one
        skip
        return found
      else if b = "-a".toList || b = "-o".toList then alternatives s words fuel
      else throw (inCurlyQuotes b ++ ": binary operator expected".toList)
    | _ => return false

/-- The truth of so many words. -/
def ofLength (s : Shell) (words : List Text) (count : Nat) : (fuel : Nat) → Deciding Bool
  | 0 => return false
  | fuel + 1 => do
    match count, ← get with
    | 1, _ => one
    | 2, _ => two s words
    | 3, _ => three s words fuel
    | 4, a :: _ :: _ :: d :: _ =>
      if a = ['!'] then
        skip
        return !(← three s words fuel)
      else if a = ['('] && d = [')'] then
        skip
        let found ← two s words
        skip
        return found
      else alternatives s words fuel
    | _, _ => alternatives s words fuel

/-- The truth of alternatives. -/
def alternatives (s : Shell) (words : List Text) : (fuel : Nat) → Deciding Bool
  | 0 => return false
  | fuel + 1 => do
    let found ← conjunction s words fuel
    if (← get).head? = some "-o".toList then
      skip
      let more ← alternatives s words fuel
      return found || more
    else return found

/-- The truth of conditions that have to hold together. -/
def conjunction (s : Shell) (words : List Text) : (fuel : Nat) → Deciding Bool
  | 0 => return false
  | fuel + 1 => do
    let found ← primary s words fuel
    if (← get).head? = some "-a".toList then
      skip
      let more ← conjunction s words fuel
      return found && more
    else return found

/-- The truth of one condition. -/
def primary (s : Shell) (words : List Text) : (fuel : Nat) → Deciding Bool
  | 0 => return false
  | fuel + 1 => do
    demand words
    match ← get with
    | ['!'] :: _ =>
      skip
      return !(← primary s words fuel)
    | ['('] :: rest =>
      skip
      demand words
      let inside := (rest.drop 1).takeWhile (· ≠ [')'])
      let found ← ofLength s words (if inside.length < 4 then inside.length + 1 else rest.length) fuel
      match ← get with
      | [')'] :: _ =>
        skip
        return found
      | [] => throw (inCurlyQuotes [')'] ++ " expected".toList)
      | other :: _ =>
        throw (inCurlyQuotes [')'] ++ " expected, found ".toList ++ inCurlyQuotes other)
    | a :: b :: c :: _ =>
      if isSign b then
        modify (List.drop 3)
        binary s a b c
      else if isLetter a then unary s words
      else one
    | a :: _ => if isLetter a then unary s words else one
    | [] => return false

end

/-- The truth of the condition that words make. -/
def truth (s : Shell) (words : List Text) : Except Text Bool := do
  if words.isEmpty then return false
  let (found, rest) ← (ofLength s words words.length (8 * words.length + 8)).run words
  match rest with
  | [] => return found
  | extra :: _ => throw ("extra argument ".toList ++ inCurlyQuotes extra)

end Deciding

/-- Decide a condition. -/
def decide : Utility := fun words => modify fun s =>
  match Deciding.truth s words with
  | .ok found => s.ofTest found
  | .error said => s.failWith 2 said

/-- Decide a condition that stands between brackets. -/
def decideInBrackets : Utility := fun words =>
  match words.reverse with
  | [']'] :: rest => decide rest.reverse
  | _ => modify (·.failWith 2 ("missing ".toList ++ inCurlyQuotes [']']))

/-! ### Time -/

/-- A time that is longer than any there is. -/
def longTime : Nat := Nat.pow 10 24

/-- The time, in nanoseconds, that a word with a unit tells. -/
def timeIn? (word : Text) : Option Nat :=
  match Fractional.lead? word with
  | none => none
  | some (x, unit) =>
    let seconds :=
      match unit with
      | [] => some 1
      | ['s'] => some 1
      | ['m'] => some 60
      | ['h'] => some 3600
      | ['d'] => some 86400
      | _ => none
    if x.negative && x.dividend ≠ 0 then none
    else if !x.isFinite then if x.dividend = 0 then none else seconds.map fun _ => longTime
    else seconds.map fun n => x.dividend * n * Duration.perSecond / x.divisor

/-- Wait. -/
def pause : Utility :=
  Usage.program ⟨"", "", []⟩ fun _ words => do
    if words.isEmpty then modify (·.misuse "missing operand".toList)
    else
      match words.filter fun word => (timeIn? word).isNone with
      | [] => Run.pass (words.foldl (fun n word => n + (timeIn? word).getD 0) 0)
      | wrong =>
        for word in wrong do
          Run.fail ("invalid time interval ".toList ++ inCurlyQuotes word)
        modify Shell.hint

end NameTables.Script.Utility
