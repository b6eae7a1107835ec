import NameTables.Script.Utility.Compare.Changes
import NameTables.Script.Utility.Pairing
import NameTables.Script.Utility.State

/-!
# The differences of files

The programs that tell whether two files differ, where they do, and which lines make one of them the
other one.  Directories are compared file by file.

## Main definitions

* `compareOctets` — the first octet that differs.
* `Line`, `Line.readAll` — lines that are compared.
* `Difference`, `Difference.text` — how the differences of two files are told.
* `comparePaths` — two files, or two directories.
* `printDifferences`, `printFirstDifference` — the programs.
-/

namespace NameTables.Script.Utility

open Shell (path)

/-- Refuse to do anything with the arguments, where each line of the message has the program's
name. -/
def refuseUse (said : Text) : Run Unit := do
  Run.say said
  let s ← get
  Run.say ("Try '".toList ++ s.name ++ " --help' for more information.".toList)
  modify (·.withStatus 2)

/-! ### Octets -/

/-- How two texts of octets differ. -/
inductive OctetOutcome
  /-- Not at all. -/
  | same
  /-- The one with a number ends after so many octets; whether that is within a line is told, and how
  many lines have ended. -/
  | ended (second : Bool) (octets : Nat) (within : Bool) (lines : Nat)
  /-- By an octet with a number, on a line with a number. -/
  | differ (position line : Nat) (a b : Char)

/-- Compare octets from a position on, on a line; `last` is the octet before. -/
def compareOctets : (position line : Nat) → (last : Char) → Text → Text → OctetOutcome
  | _, _, _, [], [] => .same
  | position, line, last, [], _ :: _ => .ended false (position - 1) (last ≠ '\n') line
  | position, line, last, _ :: _, [] => .ended true (position - 1) (last ≠ '\n') line
  | position, line, _, a :: x, b :: y =>
    if a = b then compareOctets (position + 1) (if a = '\n' then line + 1 else line) a x y
    else .differ position line a b

/-- All octets that differ, with their positions. -/
def differingOctets (a b : Text) : List (Nat × Char × Char) :=
  ((a.zip b).zipIdx.filter fun ((x, y), _) => x ≠ y).map fun ((x, y), i) => (i + 1, x, y)

/-- An octet as a number to the base 8, in three places. -/
def octalOctet (c : Char) : Text := Text.padLeft 3 (Nat.toDigits 8 c.toNat)

/-- An octet as it is shown beside its number. -/
def shownOctet (c : Char) : Text :=
  let n := c.toNat
  let (lead, n) := if 128 ≤ n then ("M-".toList, n - 128) else ([], n)
  lead ++ if n < 32 then ['^', Char.ofNat (n + 64)]
    else if n = 127 then ['^', '?'] else [Char.ofNat n]

/-- The number that a word tells. -/
def countIn? (word : Text) : Option Nat := digitsValue? 10 word

/-- Tell where two files differ first, or all octets that differ. -/
def printFirstDifference : Utility := fun args => do
  let usage : Usage :=
    ⟨"bls", "in", [("print-bytes", 'b'), ("verbose", 'l'), ("quiet", 's'), ("silent", 's'),
      ("ignore-initial", 'i'), ("bytes", 'n')]⟩
  let badValue := fun (option : String) (word : Text) =>
    refuseUse ("invalid --".toList ++ option.toList ++ " value ".toList ++ inUprightQuotes word)
  match usage.split args with
  | .error said => refuseUse said
  | .ok (options, operands) =>
    let skips := (wordOf? 'i' options).map fun word =>
      match splitAt (· = ':') word with
      | [first, second] => (countIn? first, countIn? second)
      | _ => (countIn? word, countIn? word)
    let bytes := (wordOf? 'n' options).map countIn?
    let given := fun c => isGiven c options
    match skips, bytes, operands with
    | some (none, _), _, _ | some (_, none), _, _ =>
      badValue "ignore-initial" ((wordOf? 'i' options).getD [])
    | _, some none, _ => badValue "bytes" ((wordOf? 'n' options).getD [])
    | _, _, [] => refuseUse "missing operand after 'cmp'".toList
    | _, _, _ :: _ :: _ :: _ :: extra :: _ =>
      refuseUse ("extra operand ".toList ++ inUprightQuotes extra)
    | _, _, first :: others =>
      if given 'l' && given 's' then refuseUse "options -l and -s are incompatible".toList
      else
        let second := others.headD ['-']
        let operandSkip := fun (i : Nat) => ((others[i]?).bind countIn?).getD 0
        let (skipFirst, skipSecond) := match skips with
          | some (a, b) => (a.getD 0, b.getD 0)
          | none => (operandSkip 1, operandSkip 2)
        let quiet := given 's'
        let trouble := fun (name : Text) (fault : IoFault) => do
          if !quiet then Run.say (faultText name fault)
          modify (·.withStatus 2)
        match ← Run.contentOf first with
        | .error fault => trouble first fault
        | .ok a =>
          match ← if second = first then pure (.ok a) else Run.contentOf second with
          | .error fault => trouble second fault
          | .ok b =>
            let cut := fun (skip : Nat) (s : Text) =>
              let s := s.drop skip
              match bytes with | some (some n) => s.take n | _ => s
            let (a, b) := (cut skipFirst a, cut skipSecond b)
            let names := first ++ ' ' :: second
            let told := fun (x y : Char) =>
              if given 'b' then
                " is ".toList ++ octalOctet x ++ ' ' :: shownOctet x ++ ' ' :: octalOctet y
                  ++ ' ' :: shownOctet y
              else []
            if given 'l' then
              let s ← get
              let isFile := fun name : Text => (s.fileAt? name).isSome
              let most := (if isFile first then [a.length] else [])
                ++ (if isFile second then [b.length] else [])
              let width := ((most.min?.map Text.ofNat).getD (List.replicate 19 '9')).length
              let line := fun (p : Nat × Char × Char) =>
                let (n, x, y) := p
                Text.padLeft width (Text.ofNat n) ++ ' ' :: octalOctet x ++ ' '
                  :: (if given 'b' then Text.padRight 4 (shownOctet x) ++ [' '] else [])
                  ++ octalOctet y ++ (if given 'b' then ' ' :: shownOctet y else []) ++ ['\n']
              let found := differingOctets a b
              if !found.isEmpty then
                modify (·.withStatus 1)
                Run.print (found.flatMap line)
            let shorter := if a.length < b.length then some first
              else if b.length < a.length then some second else none
            match compareOctets 1 1 '\n' a b with
            | .same => pure ()
            | .differ position line x y =>
              modify (·.withStatus 1)
              if !quiet && !given 'l' then
                Run.print (names ++ " differ: byte ".toList ++ Text.ofNat position
                  ++ ", line ".toList ++ Text.ofNat line ++ told x y ++ ['\n'])
              match given 'l', shorter with
              | true, some name =>
                Run.say ("EOF on ".toList ++ name ++ " after byte ".toList
                  ++ Text.ofNat (min a.length b.length))
              | _, _ => pure ()
            | .ended isSecond count within line =>
              modify (·.withStatus 1)
              if !quiet then
                let lead := "EOF on ".toList ++ (if isSecond then second else first)
                Run.say (if count = 0 then lead ++ " which is empty".toList
                  else lead ++ " after byte ".toList ++ Text.ofNat count
                    ++ if given 'l' then []
                      else if within then ", in line ".toList ++ Text.ofNat line
                      else ", line ".toList ++ Text.ofNat (line - 1))

/-! ### Lines -/

/-- A line that is compared. -/
structure Line where
  /-- The line, without its end. -/
  text : Text
  /-- Does it have an end? -/
  ended : Bool
  deriving DecidableEq

/-- The lines of a text. -/
def Line.readAll (text : Text) : List Line :=
  let (ended, last) := Run.splitEndedLines '\n' text
  ended.map (⟨·, true⟩) ++ if last.isEmpty then [] else [⟨last, false⟩]

/-- A line as it is printed behind a mark. -/
def Line.shown (mark : Text) (l : Line) : Text :=
  mark ++ l.text ++ if l.ended then ['\n'] else "\n\\ No newline at end of file\n".toList

/-- How differences are told. -/
structure Difference where
  /-- The options. -/
  options : List (Char × Text)
  /-- The options as they are written. -/
  switches : List Text
  /-- How many lines are shown around those that differ, if any are. -/
  context : Option Nat

namespace Difference

/-- Is an option given? -/
def has (d : Difference) (c : Char) : Bool := isGiven c d.options

/-- What is compared of a line. -/
def key (d : Difference) (l : Line) : Text × Bool :=
  let isBlank := fun c : Char => c = ' ' || ('\t' ≤ c && c ≤ '\r')
  let trimmed := fun s : Text => (s.reverse.dropWhile isBlank).reverse
  let s := if d.has '\x01' && l.text.getLast? = some '\r' then l.text.dropLast else l.text
  let s :=
    if d.has 'w' then s.filter (!isBlank ·)
    else if d.has 'b' then
      -- blanks in a row count as one
      (trimmed s).foldr (fun c rest =>
        if !isBlank c then c :: rest
        else if rest.head? = some ' ' then rest else ' ' :: rest) []
    else if d.has 'Z' then trimmed s
    else s
  let s := if d.has 'i' then s.map Char.toLower else s
  (s, l.ended || d.has 'w' || d.has 'b' || d.has 'Z')

/-- The lines of two files as numbers, such that equal lines have equal numbers. -/
def numbered (d : Difference) (a b : List Line) : List Nat × List Nat :=
  let keys := (a ++ b).map d.key
  let distinct := keys.eraseDups
  let numbers := keys.map fun k => distinct.idxOf k
  (numbers.take a.length, numbers.drop a.length)

/-- What makes the lines of one file those of another one. -/
def hunks (d : Difference) (a b : List Line) : List Hunk :=
  let (x, y) := d.numbered a b
  let found := hunksOf (d.context.getD 0) x y
  if d.has 'B' then
    found.filter fun h =>
      ((a.drop h.x).take h.out ++ (b.drop h.y).take h.in_).any fun l => !l.text.isEmpty
  else found

/-- The numbers of lines, from one to another. -/
def range (start count : Nat) : Text :=
  if 1 < count then Text.ofNat (start + 1) ++ ',' :: Text.ofNat (start + count)
  else Text.ofNat (start + count)

/-- A hunk as it is usually told. -/
def hunkText (a b : List Line) (h : Hunk) : Text :=
  let letter := if h.in_ = 0 then 'd' else if h.out = 0 then 'a' else 'c'
  let removed := ((a.drop h.x).take h.out).flatMap (Line.shown "< ".toList)
  let added := ((b.drop h.y).take h.in_).flatMap (Line.shown "> ".toList)
  range h.x h.out ++ letter :: range h.y h.in_ ++ '\n' :: removed
    ++ (if letter = 'c' then "---\n".toList else []) ++ added

/-- Hunks that are so near to each other that they are told together. -/
def grouped (context : Nat) : List Hunk → List (List Hunk)
  | [] => []
  | h :: rest =>
    match grouped context rest with
    | (next :: more) :: others =>
      if next.x ≤ h.x + h.out + 2 * context then (h :: next :: more) :: others
      else [h] :: (next :: more) :: others
    | others => [h] :: others

/-- The numbers of lines in a hunk with lines around it. -/
def contextRange (start count : Nat) : Text :=
  if count = 1 then Text.ofNat (start + 1)
  else if count = 0 then Text.ofNat start ++ ",0".toList
  else Text.ofNat (start + 1) ++ ',' :: Text.ofNat count

/-- Hunks with the lines around them. -/
def groupText (a b : List Line) (context : Nat) (group : List Hunk) : Text :=
  match group.head?, group.getLast? with
  | some first, some last =>
    let start := first.x - context
    let lead := first.x - start
    let tail := min context (a.length - (last.x + last.out))
    let (xEnd, yEnd) := (last.x + last.out + tail, last.y + last.in_ + tail)
    let (yStart, same) := (first.y - lead, Line.shown [' '])
    let body := group.foldl (fun (found : Text × Nat) h =>
      let (text, at_) := found
      (text ++ ((a.drop at_).take (h.x - at_)).flatMap same
        ++ ((a.drop h.x).take h.out).flatMap (Line.shown ['-'])
        ++ ((b.drop h.y).take h.in_).flatMap (Line.shown ['+']), h.x + h.out)) ([], start)
    "@@ -".toList ++ contextRange start (xEnd - start) ++ " +".toList
      ++ contextRange yStart (yEnd - yStart) ++ " @@\n".toList ++ body.1
      ++ ((a.drop body.2).take (xEnd - body.2)).flatMap same
  | _, _ => []

/-- The differences of two files with these titles. -/
def text (d : Difference) (titles : Text × Text) (a b : List Line) : Text :=
  let hunks := d.hunks a b
  match d.context with
  | none => hunks.flatMap (hunkText a b)
  | some context =>
    "--- ".toList ++ titles.1 ++ "\n+++ ".toList ++ titles.2 ++ '\n'
      :: (grouped context hunks).flatMap (groupText a b context)

end Difference

/-! ### Files and directories -/

/-- A file that is compared. -/
structure Compared where
  /-- Its name. -/
  name : Text
  /-- What it holds, if it is a file. -/
  content : Option Text
  /-- Its place, if it is a directory. -/
  directory : Option Place
  /-- When it has changed. -/
  time : Int

namespace Compared

/-- A file that is missing counts as an empty one here. -/
def missing (name : Text) : Compared := ⟨name, some [], none, 0⟩

/-- What a name stands for. -/
def ofName (name : Text) : Run (Except IoFault Compared) := do
  let s ← get
  match s.files.nodeAt? (path name), s.files.locate (path name) with
  | some (.directory mode), .ok place =>
    return .ok ⟨name, none, some place, timeOf s.files (.directory mode)⟩
  | node, _ =>
    let time := ((node.map (timeOf s.files)).getD s.files.now)
    return (← Run.contentOf name).map fun text => ⟨name, some text, none, time⟩

/-- The title of a file. -/
def title (c : Compared) : Text :=
  c.name ++ '\t' :: dateText c.time "%Y-%m-%d %H:%M:%S.%N %z".toList

end Compared

namespace Difference

/-- Tell that something is wrong with a name. -/
def trouble (name : Text) (fault : IoFault) : Run Unit := do
  Run.say (faultText name fault)
  modify (·.withStatus 2)

/-- Note that there is a difference, unless something is wrong. -/
def note : Run Unit := modify fun s => if s.status = 2 then s else s.withStatus 1

/-- Tell the differences of two files; in a directory, the command is told in front of them. -/
def compareFiles (d : Difference) (inside : Bool) (a b : Compared) : Run Unit := do
  let (x, y) := (a.content.getD [], b.content.getD [])
  let named := fun (lead tail : String) =>
    lead.toList ++ a.name ++ " and ".toList ++ b.name ++ tail.toList
  let isBinary := !d.has 'a' && ('\x00' ∈ x.take 32768 || '\x00' ∈ y.take 32768)
  let (lines, others) := (Line.readAll x, Line.readAll y)
  if x = y || (!isBinary && (d.hunks lines others).isEmpty) then
    if d.has 's' then Run.print (named "Files " " are identical\n")
  else
    note
    if d.has 'q' then Run.print (named "Files " " differ\n")
    else if isBinary then Run.print (named "Binary files " " differ\n")
    else
      let labels := (d.options.filter (·.1 == 'L')).map Prod.snd
      let titles := ((labels[0]?).getD a.title, (labels[1]?).getD b.title)
      let lead :=
        if inside then
          Text.join [' '] ("diff".toList :: d.switches ++ [asShellWord a.name, asShellWord b.name])
            ++ ['\n']
        else []
      Run.print (lead ++ d.text titles lines others)

/-- Compare two files, or two directories, so many levels deep at most; a name that is missing in one
of the directories is told. -/
def comparePaths (d : Difference) : (depth : Nat) → (within : Bool) → Compared → Compared → Run Unit
  | 0, _, _, _ => return
  | depth + 1, within, a, b => do
    match a.directory, b.directory with
    | some here, some there =>
      if within && !d.has 'r' then
        Run.print ("Common subdirectories: ".toList ++ a.name ++ " and ".toList ++ b.name ++ ['\n'])
      else
        let s ← get
        let namesIn := fun place => (s.files.entries place).map fun (child, _) => octets child
        let (own, others) := (namesIn here, namesIn there)
        let names := (own ++ others).eraseDups.mergeSort fun x y => (compareTexts x y).isLE
        let names := names.filter fun name =>
          !d.options.any fun (c, pattern) => c = 'x' && fitsPattern pattern name
        for name in names do
          if ← Run.goes then
            let isMissing := fun (names : List Text) => !names.contains name
            let side := fun (c : Compared) (names : List Text) =>
              if isMissing names then
                pure (Except.ok (Compared.missing (Utility.inside c.name name)))
              else Compared.ofName (Utility.inside c.name name)
            if (isMissing own || isMissing others) && !d.has 'N' then
              note
              let dir := if isMissing own then b.name else a.name
              Run.print ("Only in ".toList ++ dir ++ ": ".toList ++ name ++ ['\n'])
            else
              match ← side a own, ← side b others with
              | .ok x, .ok y =>
                -- what is missing is as empty as what it is compared with can be
                let like := fun (x y : Compared) (place : Place) (names : List Text) =>
                  if isMissing names && y.directory.isSome then
                    { x with content := none, directory := some (ofOctets name :: place) }
                  else x
                comparePaths d depth true (like x y here own) (like y x there others)
              | .error fault, _ => trouble (Utility.inside a.name name) fault
              | _, .error fault => trouble (Utility.inside b.name name) fault
    | none, none => d.compareFiles within a b
    | some _, none =>
      let kind := fun (c : Compared) (what : String) => what.toList ++ c.name
      note
      Run.print (kind a "File " ++ " is a directory while file ".toList ++ b.name
        ++ " is a regular file\n".toList)
    | none, some _ =>
      note
      Run.print ("File ".toList ++ a.name ++ " is a regular file while file ".toList ++ b.name
        ++ " is a directory\n".toList)

end Difference

/-- How the program that tells differences is used. -/
def differenceUsage : Usage :=
  ⟨"abBdiNqrsuwZ\x01", "LUx", [("text", 'a'), ("ignore-space-change", 'b'),
    ("ignore-blank-lines", 'B'), ("ignore-case", 'i'), ("new-file", 'N'), ("brief", 'q'),
    ("recursive", 'r'), ("report-identical-files", 's'), ("unified", 'U'), ("label", 'L'),
    ("ignore-all-space", 'w'), ("ignore-trailing-space", 'Z'), ("exclude", 'x'), ("minimal", 'd'),
    ("strip-trailing-cr", '\x01'), ("normal", '\x02')]⟩

/-- Tell which lines make a file another one. -/
def printDifferences : Utility := fun args => do
  match differenceUsage.split args with
  | .error said => refuseUse said
  | .ok (options, operands) =>
    let context :=
      match (options.filter fun o => o.1 ∈ ['u', 'U']).getLast? with
      | some ('U', word) => some ((digitsValue? 10 word).getD 3)
      | some _ => some 3
      | none => none
    let switches := (args.takeWhile (· ≠ ['-', '-'])).filter fun word =>
      word.head? = some '-' && word ≠ ['-']
    let d : Difference := ⟨options, switches.map asShellWord, context⟩
    match operands with
    | [] => refuseUse "missing operand after 'diff'".toList
    | [name] => refuseUse ("missing operand after ".toList ++ inUprightQuotes name)
    | _ :: _ :: extra :: _ => refuseUse ("extra operand ".toList ++ inUprightQuotes extra)
    | [first, second] =>
      let s ← get
      let isDirectory := fun name => (s.files.nodeAt? (path name)).any (·.isDirectory)
      -- a file is compared with the one of its name in a directory
      let first' := if isDirectory first && !isDirectory second && second ≠ ['-'] then
          inside first (lastName second) else first
      let second' := if isDirectory second && !isDirectory first && first ≠ ['-'] then
          inside second (lastName first) else second
      let a ← Compared.ofName first'
      let b ← if second = first then pure a else Compared.ofName second'
      match a, b with
      | .ok a, .ok b => d.comparePaths 100 false a b
      | a, b =>
        let missing := fun (c : Except IoFault Compared) =>
          match c with | .error .notFound => true | _ => false
        match d.has 'N', a, b with
        | true, .ok a, .error .notFound =>
          d.comparePaths 100 false a (Compared.missing second')
        | true, .error .notFound, .ok b =>
          d.comparePaths 100 false (Compared.missing first') b
        | _, _, _ =>
          let report := fun (name : Text) (c : Except IoFault Compared) =>
            match c with
            | .error fault => Difference.trouble name fault
            | .ok _ => pure ()
          report first' a
          if !(missing a && missing b && first' = second') then report second' b

end NameTables.Script.Utility
