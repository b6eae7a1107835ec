import NameTables.Script.Regex.Reading
import NameTables.Script.Utility.Find.Predicate

/-!
# Looking for lines

The program that prints the lines that patterns match.

## Main definitions

* `LinePattern`, `LinePattern.match?` — what is looked for in lines.
* `Report` — what is printed of what has been found.
* `findLines` — the program.
-/

namespace NameTables.Script.Utility

open Shell (path)

/-- What is looked for in lines. -/
structure LinePattern where
  /-- Regular expressions, any of which may match. -/
  regexes : List Regex
  /-- Is the case of letters of no concern? -/
  anyCase : Bool
  /-- Has a match to be all of the line? -/
  whole : Bool
  /-- Has a match to be made of words? -/
  words : Bool

namespace LinePattern

/-- The end of the longest match that begins in a state. -/
def end? (p : LinePattern) (st : Regex.State) : Option Regex.State :=
  let ends := p.regexes.flatMap fun r => r.ends p.anyCase r.looksBack st
  let fits := fun (after : Regex.State) =>
    if p.whole then st.before.isNone && after.rest.isEmpty
    else if p.words then !st.before.any Regex.inWord && !after.rest.head?.any Regex.inWord
    else true
  (ends.filter fits).foldl (fun found after =>
    match found with
    | some other => if other.position < after.position then some after else found
    | none => some after) none

/-- The first match from a state on, in so many characters at most: where it begins and ends. -/
def matchFrom? (p : LinePattern) : (fuel : Nat) → Regex.State → Option (Regex.State × Regex.State)
  | 0, _ => none
  | fuel + 1, st =>
    match p.end? st with
    | some after => some (st, after)
    | none =>
      match st.next? with
      | some (_, next) => matchFrom? p fuel next
      | none => none

/-- The first match from a state on. -/
def match? (p : LinePattern) (st : Regex.State) : Option (Regex.State × Regex.State) :=
  p.matchFrom? (st.rest.length + 1) st

/-- Is there a match in a line? -/
def holds (p : LinePattern) (line : Text) : Bool := (p.match? (.ofText line)).isSome

/-- The matches in what is left of a line that are not empty, each with its position. -/
def all (p : LinePattern) : (fuel : Nat) → Regex.State → List (Nat × Text)
  | 0, _ => []
  | fuel + 1, st =>
    match p.match? st with
    | none => []
    | some (start, after) =>
      if after.position = start.position then
        match after.next? with
        | some (_, next) => all p fuel next
        | none => []
      else
        (start.position, start.rest.take (after.position - start.position)) :: all p fuel after

end LinePattern

/-- What is printed of what is found. -/
structure Report where
  /-- The letters of the options. -/
  letters : List Char
  /-- Is the name of the file told? -/
  named : Bool
  /-- How many lines are looked for in a file at most. -/
  most : Option Nat
  /-- How many lines in front of a match are printed. -/
  before : Nat
  /-- How many lines behind a match are printed. -/
  after : Nat
  /-- The name of the input. -/
  label : Text
  /-- How wide numbers in front of lines are at least. -/
  width : Nat

/-- What has been found in a file so far. -/
structure Found where
  /-- How many lines. -/
  count : Nat
  /-- The number of the last line that was read. -/
  number : Nat
  /-- The number of octets before it. -/
  offset : Nat
  /-- The last lines that were read and not printed, the last one first. -/
  recent : List Text
  /-- How many lines are still to be printed behind a match. -/
  owed : Nat
  /-- The number of the line that was printed last. -/
  printed : Option Nat
  /-- Has the file been found to be no text? -/
  binary : Bool
  /-- Is there nothing more to be done? -/
  final : Bool

namespace Report

/-- Is an option given? -/
def has (r : Report) (c : Char) : Bool := c ∈ r.letters

/-- Is nothing printed but what is told of whole files? -/
def isBrief (r : Report) : Bool := r.has 'c' || r.has 'l' || r.has 'L' || r.has 'q'

/-- The end of lines. -/
def stop (r : Report) : Char := if r.has 'z' then '\x00' else '\n'

/-- What stands in front of a line. -/
def lead (r : Report) (name : Text) (sign : Char) (number offset : Nat) : Text :=
  let shown := fun n : Nat => Text.padLeft r.width (Text.ofNat n) ++ [sign]
  (if r.named then name ++ [if r.has 'Z' then '\x00' else sign] else [])
    ++ (if r.has 'n' then shown number else [])
    ++ (if r.has 'b' then shown offset else [])
    ++ if r.has 'T' && (r.named || r.has 'n' || r.has 'b') then ['\t'] else []

/-- Is something in a line that is in no text? -/
def isStrange (r : Report) (line : Text) : Bool :=
  (!r.has 'z' && '\x00' ∈ line) || (symbolsOf line).any isStray

/-- One more line is looked at; what is printed for it comes with the result, in pieces of which the
last one comes first. -/
def look (r : Report) (p : LinePattern) (name : Text) (f : Found) (pieces : List Text)
    (line : Text) : Found × List Text :=
  if f.final then (f, pieces)
  else
    let symbols := symbolsOf line
    let number := f.number + 1
    let length := line.length + 1
    let isFound := p.holds symbols != r.has 'v'
    let shown := fun (sign : Char) (n offset : Nat) (line : Text) =>
      r.lead name sign n offset ++ line ++ [r.stop]
    if isFound then
      let count := f.count + 1
      let isLast := r.most.any (· ≤ count)
      if r.isBrief then
        ({ f with
          count
          number
          offset := f.offset + length
          final := r.has 'q' || r.has 'l' || r.has 'L' || isLast }, pieces)
      else if (f.binary || r.isStrange line) && !r.has 'a' then
        ({ f with count := if r.has 'I' then 0 else count, number, binary := true, final := true },
          pieces)
      else if r.has 'o' then
        let found := if r.has 'v' then [] else p.all (symbols.length + 1) (.ofText symbols)
        let lines := found.map fun (position, text) =>
          r.lead name ':' number (f.offset + (octetsOf (symbols.take position)).length)
            ++ octetsOf text ++ [r.stop]
        ({ f with count, number, offset := f.offset + length, final := isLast },
          lines.flatten :: pieces)
      else
        let recent := f.recent.take r.before
        let first := number - recent.length
        let gap := (r.before ≠ 0 || r.after ≠ 0) && f.printed.any (· + 1 < first)
        let sizeFrom := fun i : Nat => total ((recent.take (recent.length - i)).map (·.length + 1))
        let lead := recent.reverse.zipIdx.map fun (line, i) =>
          shown '-' (first + i) (f.offset - sizeFrom i) line
        let text := (if gap then "--\n".toList else []) ++ lead.flatten
          ++ shown ':' number f.offset line
        ({ f with
          count
          number
          offset := f.offset + length
          recent := []
          owed := r.after
          printed := some number
          final := isLast && r.after = 0 }, text :: pieces)
    else if 0 < f.owed && !r.isBrief && !r.has 'o' then
      ({ f with
        number
        offset := f.offset + length
        owed := f.owed - 1
        printed := some number
        final := f.owed = 1 && r.most.any (· ≤ f.count) },
        shown '-' number f.offset line :: pieces)
    else
      ({ f with
        number
        offset := f.offset + length
        recent := if r.before = 0 then [] else line :: f.recent.take (r.before - 1)
        final := r.most.any (· ≤ f.count) }, pieces)

/-- How wide numbers are that are not greater than the size of what is opened, if that is known. -/
def widthFor (s : Shell) (id : Nat) : Nat :=
  match (s.toScene.opened? id).map Opened.target with
  | some (.file number) => (Text.ofNat (s.files.content number).length).length
  | _ => (Text.ofInt extremes.2).length

/-- Look through what is opened, and print what is found; tell whether that is anything. -/
def search (r : Report) (p : LinePattern) (name : Text) (id : Nat) :
    Run (Except IoFault Bool) := do
  let s ← get
  let r := if r.has 'T' then { r with width := widthFor s id } else r
  let start : Found := ⟨0, 0, 0, [], 0, none, false, r.most = some 0⟩
  let step := fun (f : Found) (lines : List Text) (_ : Bool) => do
    let f := if f.number = 0 && !r.has 'z' && lines.any ('\x00' ∈ ·) then
        { f with binary := true } else f
    let (f, pieces) := lines.foldl (fun (f, pieces) line =>
      r.look p name f pieces line) (f, ([] : List Text))
    Run.print pieces.reverse.flatten
    return f
  let found ← Run.eachLines id r.stop Found.final start step
  let f := match found with
    | .ok f => f
    | .error (_, f) => f
  let fault := match found with
    | .ok _ => none
    | .error (fault, _) => some fault
  match fault with
  | some fault => return .error fault
  | none =>
    if r.has 'q' then return .ok (0 < f.count)
    let ending := if r.has 'Z' then '\x00' else '\n'
    if r.has 'c' then
      Run.print ((if r.named then name ++ [if r.has 'Z' then '\x00' else ':'] else [])
        ++ Text.ofNat f.count ++ ['\n'])
    if r.has 'l' then
      if 0 < f.count then Run.print (name ++ [ending])
    else if r.has 'L' then
      if f.count = 0 then Run.print (name ++ [ending])
    if f.binary && f.final && !r.isBrief && !r.has 'a' && 0 < f.count then
      modify (·.write 2 ("grep: ".toList ++ name ++ ": binary file matches\n".toList))
    return .ok (0 < f.count)

end Report

/-- A regular expression that only matches a text. -/
def Regex.literal (s : Text) : Regex :=
  s.foldr (fun c r =>
    match r with
    | .empty => .one (.char c)
    | r => .seq (.one (.char c)) r) .empty

/-- The usage of the program that looks for lines. -/
def grepUsage : Usage :=
  ⟨"EFGPivwxcloqsnHhbzaILrRZTyuU", "efmABCdDX\x01\x02", [("regexp", 'e'), ("file", 'f'), ("ignore-case", 'i'),
    ("no-ignore-case", '#'), ("invert-match", 'v'), ("word-regexp", 'w'), ("line-regexp", 'x'),
    ("count", 'c'), ("files-with-matches", 'l'), ("files-without-match", 'L'), ("max-count", 'm'),
    ("only-matching", 'o'), ("quiet", 'q'), ("silent", 'q'), ("no-messages", 's'),
    ("byte-offset", 'b'), ("with-filename", 'H'), ("no-filename", 'h'), ("line-number", 'n'),
    ("null", 'Z'), ("null-data", 'z'), ("text", 'a'), ("after-context", 'A'),
    ("before-context", 'B'), ("context", 'C'), ("recursive", 'r'), ("extended-regexp", 'E'),
    ("fixed-strings", 'F'), ("basic-regexp", 'G'), ("perl-regexp", 'P'), ("initial-tab", 'T'),
    ("dereference-recursive", 'R'), ("color", 'K'), ("colour", 'K'), ("binary", 'U'),
    ("line-buffered", '\x03'), ("unix-byte-offsets", 'u'), ("label", '\x01'),
    ("binary-files", '\x02'), ("directories", 'd'), ("devices", 'D')]⟩

/-- The words without those that tell which files are looked through, and what these tell: names that
are looked at, or passed over, of files or of directories. -/
def fileChoices (args : List Text) : List Text × List Text × List Text × List Text :=
  let value := fun (lead : String) (word : Text) => Text.dropLead? lead.toList word
  let pick := fun (lead : String) => args.filterMap (value lead)
  let isChoice := fun word : Text => ["--include=", "--exclude=", "--exclude-dir="].any
    fun lead => (value lead word).isSome
  (args.filter (!isChoice ·), pick "--include=", pick "--exclude=", pick "--exclude-dir=")

/-- The files below a directory, each with its path from there, in order. -/
def filesBelow (fs : Files) (passesOver : Text → Bool) : (depth : Nat) → (dir : Text) → Place →
    List Text
  | 0, _, _ => []
  | depth + 1, dir, place =>
    let children := ((fs.entries place).map fun (name, node) => (octets name, name, node)).mergeSort
      fun a b => a.1 ≤ b.1
    children.flatMap fun (name, child, node) =>
      let p := if dir.isEmpty then name else inside dir name
      match node with
      | .directory _ =>
        if passesOver name then [] else filesBelow fs passesOver depth p (child :: place)
      | .file _ => [p]
      | _ => []

/-- Patterns as one: the regular expressions that the lines of a text tell. -/
def linePatterns (letters : List Char) (text : Text) : Except RegexFault (List Regex) :=
  let kind := (letters.filter (· ∈ ['E', 'F', 'G', 'P'])).getLast?
  let lines := splitAt (· = '\n') (symbolsOf text)
  if kind = some 'F' then .ok (lines.map Regex.literal)
  else
    let extended := kind = some 'E' || kind = some 'P'
    let manner : Regex.Manner := ⟨extended, true, extended, false, true⟩
    lines.mapM fun line =>
      let line := if kind = some 'P' then digitClasses line else line
      (Regex.read manner line).map Prod.fst
where
  /-- The pattern with the letters for digits written out. -/
  digitClasses : Text → Text
    | '\\' :: 'd' :: rest => "[0-9]".toList ++ digitClasses rest
    | '\\' :: 'D' :: rest => "[^0-9]".toList ++ digitClasses rest
    | '\\' :: c :: rest => '\\' :: c :: digitClasses rest
    | c :: rest => c :: digitClasses rest
    | [] => []

/-- The words with numbers among the letters of options spelt out, which tell how many lines around a
match are printed. -/
def withContexts (args : List Text) : List Text :=
  (args.foldl step ([], false, false)).1
where
  /-- One more word, when those before it are spelt out, and the last one may lack a value, or there
  are no more options. -/
  step (found : List Text × Bool × Bool) (word : Text) : List Text × Bool × Bool :=
    let (before, lacks, ended) := found
    if lacks || ended then (before ++ [word], false, ended)
    else
      match word with
      | ['-'] => (before ++ [word], false, false)
      | '-' :: '-' :: name => (before ++ [word], false, name.isEmpty)
      | '-' :: flags =>
        let lead := flags.takeWhile (· ∉ grepUsage.taking.toList)
        let value := flags.drop lead.length
        let runs := (splitAt (!Char.isDigit ·) lead).filter (!·.isEmpty)
        let others := lead.filter (!Char.isDigit ·) ++ value
        let context := match runs.getLast? with
          | some digits => ['-' :: 'C' :: digits]
          | none => []
        (before ++ context ++ (if others.isEmpty then [] else ['-' :: others]), value.length = 1, false)
      | _ => (before ++ [word], false, false)

/-- What is said of signs of repetition in an extended regular expression that stand behind
nothing. -/
def idleSigns : (fuel : Nat) → (atStart : Bool) → Text → List Text
  | 0, _, _ => []
  | _, _, [] => []
  | fuel + 1, atStart, c :: rest =>
    let said := fun sign : String =>
      if atStart then ["warning: ".toList ++ sign.toList ++ " at start of expression".toList] else []
    if c = '\\' then idleSigns fuel false (rest.drop 1)
    else if c = '[' then
      let inside := if rest.head? = some '^' then rest.drop 1 else rest
      let members := (inside.drop 1).dropWhile (· ≠ ']')
      idleSigns fuel false (members.drop 1)
    else if c = '(' || c = '|' then idleSigns fuel true rest
    else if c = '^' then idleSigns fuel atStart rest
    else if c = '*' || c = '+' || c = '?' then
      said (String.ofList [c]) ++ idleSigns fuel atStart rest
    else if c = '\x7b' then
      let digits := rest.takeWhile fun d => d.isDigit || d = ','
      if (rest.drop digits.length).head? = some '\x7d' && !digits.isEmpty then
        said "\x7b...\x7d" ++ idleSigns fuel false (rest.drop (digits.length + 1))
      else idleSigns fuel false rest
    else idleSigns fuel false rest

/-- A number of lines around a match, or what is wrong with it. -/
def contextIn (options : List (Char × Text)) (letter : Char) : Except Text (Option Nat) :=
  match wordOf? letter options with
  | none => .ok none
  | some word =>
    match if word.all Char.isDigit then digitsValue? 10 word else none with
    | some n => .ok (some n)
    | none => .error (word ++ ": invalid context length argument".toList)

/-- What is wrong with the words of options, if anything is. -/
def grepFault? (kind : Char) (options : List (Char × Text)) : Option Text :=
  let kinds := (if kind = 'G' then [] else [kind])
    ++ (options.map Prod.fst).filter (· ∈ ['E', 'F', 'G', 'P'])
  let isOneOf := fun (letter : Char) (words : List String) =>
    (wordOf? letter options).all fun word => words.any (·.toList = word)
  if kinds.any (some · ≠ kinds.head?) then some "conflicting matchers specified".toList
  else if (wordOf? 'm' options).any fun word => (numberIn? true word).isNone then
    some "invalid max count".toList
  else if !isOneOf '\x02' ["binary", "text", "without-match"] then
    some "unknown binary-files type".toList
  else if !isOneOf 'D' ["read", "skip"] then some "unknown devices method".toList
  else none

/-- Print the lines of files that patterns match, where these are by themselves of a kind that a
letter tells. -/
def findLinesBy (kind : Char) : Utility := fun args => do
  modify fun s => if kind = 'G' then s else { s with name := "grep".toList }
  let (args, included, excluded, closed) := fileChoices args
  let usageText := "Usage: grep [OPTION]... PATTERNS [FILE]...\n".toList
  let refuse := fun (s : Shell) => ((s.write 2 usageText).hint).withStatus 2
  match grepUsage.split (withContexts args) with
  | .error said => modify fun s => refuse (s.say said)
  | .ok (options, operands) =>
    match grepFault? kind options, contextIn options 'A', contextIn options 'B',
        contextIn options 'C' with
    | some said, _, _, _ => modify (·.failWith 2 said)
    | _, .error said, _, _ => modify (·.failWith 2 said)
    | _, _, .error said, _ => modify (·.failWith 2 said)
    | _, _, _, .error said => modify (·.failWith 2 said)
    | none, .ok after, .ok before, .ok context =>
      let letters := kind :: options.map Prod.fst
        ++ (match wordOf? '\x02' options with
          | some ['t', 'e', 'x', 't'] => ['a']
          | some ('w' :: _) => ['I']
          | _ => [])
      let given := fun c => c ∈ letters
      if given 'u' then Run.say "warning: --unix-byte-offsets (-u) is obsolete".toList
      let told := options.filter fun o => o.1 == 'e' || o.1 == 'f'
      let mut texts : List Text := []
      for (letter, word) in told do
        if letter = 'e' then texts := texts ++ [word]
        else
          match ← Run.contentOf word with
          | .ok text =>
            if !text.isEmpty then
              texts := texts ++ [if text.getLast? = some '\n' then text.dropLast else text]
          | .error fault =>
            modify (·.failWith 2 (word ++ ": ".toList ++ fault.reason))
            return
      let isTold := !told.isEmpty
      if !isTold && operands.isEmpty then modify refuse
      else
        let patterns := if isTold then texts else operands.take 1
        let names := if isTold then operands else operands.drop 1
        match patterns.mapM (linePatterns letters) with
        | .error fault => modify (·.failWith 2 fault.message)
        | .ok regexes =>
          if given 'E' then
            (patterns.flatMap fun text => idleSigns (text.length + 1) true text).forM Run.say
          let number := fun c => (wordOf? c options).bind (numberIn? true)
          let deep := given 'r' || given 'R' || wordOf? 'd' options = some "recurse".toList
          let s ← get
          let p : LinePattern :=
            ⟨regexes.flatten, (given 'i' || given 'y') && !given '#', given 'x', given 'w'⟩
          let several := 1 < names.length || deep && (names.isEmpty
            || names.any fun name => s.files.isDirectoryAt (path name))
          let last := (letters.filter (· ∈ ['H', 'h'])).getLast?
          let most := (number 'm').bind fun n => if n < 0 then none else some n.toNat
          let r : Report :=
            ⟨letters, if last = some 'H' then true else if last = some 'h' then false else several,
              most, (before.or context).getD 0, (after.or context).getD 0,
              (wordOf? '\x01' options).getD "(standard input)".toList, 0⟩
          findLinesIn r p (listedFiles s deep names included excluded closed)
            (wordOf? 'd' options = some "skip".toList)
where
  /-- The files that are looked through: those that are named, and those below directories. -/
  listedFiles (s : Shell) (deep : Bool) (names included excluded closed : List Text) : List Text :=
    let passesOver := fun name => closed.any (fitsPattern · name)
    let isChosen := fun p : Text =>
      let name := lastName p
      (included.isEmpty || included.any (fitsPattern · name))
        && !excluded.any (fitsPattern · name)
    let below := fun (name : Text) (place : Place) =>
      (filesBelow s.files passesOver 1000 name place).filter isChosen
    if names.isEmpty then if deep then below [] s.files.here else [['-']]
    else names.flatMap fun name =>
      if deep && name ≠ ['-'] && s.files.isDirectoryAt (path name) then
        match s.files.locate (path name) with
        | .ok place => below name place
        | .error _ => []
      else [name]
  /-- Look through files one after another. -/
  findLinesIn (r : Report) (p : LinePattern) (names : List Text) (skips : Bool) : Run Unit := do
    let mut status := 1
    let mut failed := false
    for name in names do
      if !(← Run.goes) || (r.has 'q' && status = 0) then break
      let shown := if name = ['-'] then r.label else name
      let found ← Run.withInput name (r.search p shown)
      let result := match found with
        | .ok result => result
        | .error fault => .error fault
      match result with
      | .ok true => status := 0
      | .ok false => pure ()
      | .error fault =>
        if !(skips && fault = .isDirectory) then
          failed := true
          if !r.has 's' then Run.say (shown ++ ": ".toList ++ fault.reason)
    modify fun s =>
      if s.goes then s.withStatus (if failed && !(r.has 'q' && status = 0) then 2 else status)
      else s

/-- Print the lines of files that patterns match. -/
def findLines : Utility := findLinesBy 'G'

end NameTables.Script.Utility
