import NameTables.Script.Fractional
import NameTables.Script.Utility.Version

/-!
# Lines in order

Lines are ordered by keys, which are parts of them, and a key is ordered by its weight: its text, a
number in it, a month, or the parts of a version.  Where lines are not told apart by their keys, they
are by all they hold, or else they stay in the order they came in.

## Main definitions

* `Weight`, `Weight.compare` — what keys are compared by.
* `SortKey`, `SortKey.read` — parts of lines, and how they are told.
* `Sorting.sorted`, `Sorting.distinct` — lines in order, and without those that come again.
* `printSorted`, `printDistinct` — the programs.
-/

namespace NameTables.Script

namespace Utility

/-! ### Weights -/

/-- What a key is compared by. -/
inductive Weight
  /-- Its text. -/
  | text (s : Text)
  /-- Its text, as a name with a version in it. -/
  | version (s : Text)
  /-- A number of a rank. -/
  | number (rank : Int) (x : Fractional)

namespace Weight

/-- The order of weights. -/
def compare : Weight → Weight → Ordering
  | .text s, .text t => compareTexts s t
  | .version s, .version t => compareVersions s t
  | .number m x, .number n y => (Ord.compare m n).then (x.compare y)
  | _, _ => .eq

/-- The decimal number that a text begins with, which may be none at all, and what follows it. -/
def decimalLead (s : Text) : Fractional × Text :=
  let (negative, s) := match s with | '-' :: s => (true, s) | s => (false, s)
  let whole := s.takeWhile Char.isDigit
  let (places, rest) :=
    match s.drop whole.length with
    | '.' :: s => (s.takeWhile Char.isDigit, s.dropWhile Char.isDigit)
    | s => ([], s)
  (⟨negative, (digitsValue? 10 (whole ++ places)).getD 0, Nat.pow 10 places.length⟩, rest)

/-- The place of a letter among those that stand for greater units. -/
def unitRank (c : Char) : Nat :=
  ("KMGTPEZYRQ".toList.findIdx? (· = if c = 'k' then 'K' else c)).elim 0 (· + 1)

/-- The number of the month that a text begins with. -/
def monthIn (s : Text) : Nat :=
  let names := ["JAN", "FEB", "MAR", "APR", "MAY", "JUN", "JUL", "AUG", "SEP", "OCT", "NOV", "DEC"]
  (names.findIdx? (·.toList = (s.take 3).map Char.toUpper)).elim 0 (· + 1)

end Weight

/-! ### Keys -/

/-- Does a character stand between fields? -/
def isGap (c : Char) : Bool := c = ' ' || c = '\t' || c = '\n'

/-- A part of lines, and how it is compared. -/
structure SortKey where
  /-- How many fields stand before it. -/
  fields : Nat
  /-- How many characters of its first field stand before it. -/
  characters : Nat
  /-- The same for its end, if it ends before the line does; without characters, a field more belongs
  to it. -/
  stop : Option (Nat × Nat)
  /-- Are blanks passed over at its beginning? -/
  trims : Bool
  /-- Are blanks passed over where its end is looked for? -/
  stopTrims : Bool
  /-- The letters that tell how it is compared. -/
  letters : List Char

namespace SortKey

/-- The whole line, as letters tell. -/
def whole (letters : List Char) : SortKey :=
  ⟨0, 0, none, 'b' ∈ letters, 'b' ∈ letters, letters.filter (· ≠ 'b')⟩

/-- The letters that tell how keys are compared. -/
def orderLetters : List Char := "bdfghiMnRrV".toList

/-- The number of a field or a character that a text begins with, and what follows; what is said if
there is none. -/
def countLead (said : String) (s : Text) : Except Text (Nat × Text) :=
  match digitsLead? 10 s with
  | some found => .ok found
  | none => .error (said.toList ++ ": invalid count at start of ".toList ++ inCurlyQuotes s)

/-- The key that a word tells. -/
def read (word : Text) : Except Text SortKey := do
  let refuse := fun {α : Type} (said : String) =>
    (.error (said.toList ++ ": invalid field specification ".toList ++ inCurlyQuotes word) :
      Except Text α)
  let lettersLead := fun s : Text =>
    (s.takeWhile (· ∈ orderLetters), s.dropWhile (· ∈ orderLetters))
  let (fields, s) ← countLead "invalid number at field start" word
  if fields = 0 then refuse "field number is zero"
  else
    let started : Except Text (Nat × Text) :=
      match s with
      | '.' :: s => do
        let (characters, s) ← countLead "invalid number after '.'" s
        if characters = 0 then refuse "character offset is zero" else return (characters - 1, s)
      | s => .ok (0, s)
    let (characters, s) ← started
    let (letters, s) := lettersLead s
    let plain := letters.filter (· ≠ 'b')
    match s with
    | [] => return ⟨fields - 1, characters, none, 'b' ∈ letters, false, plain⟩
    | ',' :: s => do
      let (stop, s) ← countLead "invalid number after ','" s
      if stop = 0 then refuse "field number is zero"
      else
        let ended :=
          match s with
          | '.' :: s => countLead "invalid number after '.'" s
          | s => .ok (0, s)
        let (stopCharacters, s) ← ended
        let (more, s) := lettersLead s
        if !s.isEmpty then refuse "stray character in field spec"
        else
          return ⟨fields - 1, characters, some (stop - 1, stopCharacters), 'b' ∈ letters, 'b' ∈ more,
            plain ++ more.filter (· ≠ 'b')⟩
    | _ => refuse "stray character in field spec"

/-- Does nothing tell how the key is compared? -/
def isUsual (k : SortKey) : Bool := k.letters.isEmpty && !k.trims && !k.stopTrims

/-- The key, as letters tell that hold for all keys with no letters of their own. -/
def orElse (k : SortKey) (letters : List Char) : SortKey :=
  if k.isUsual then
    { k with
      trims := 'b' ∈ letters
      stopTrims := 'b' ∈ letters
      letters := letters.filter (· ≠ 'b') }
  else k

/-- Letters of which only one can be told; those that leave characters out are one. -/
def clash? (k : SortKey) : Option Text :=
  let has := fun c => k.letters.contains c
  let kinds := [has 'n', has 'g', has 'h', has 'M', has 'V' || has 'R' || has 'd' || has 'i']
  if (kinds.filter id).length ≤ 1 then none
  else
    some ("dfghiMnRV".toList.filter fun c =>
      (has c && !(c = 'i' && has 'd')))

/-- What follows a number of fields; the separator behind the last one does too if `short` says
so. -/
def dropFields (separator : Option Char) (short : Bool) : Nat → Text → Text
  | 0, s => s
  | _ + 1, [] => []
  | n + 1, s =>
    match separator with
    | some c =>
      let rest := s.dropWhile (· ≠ c)
      if short && n = 0 then rest else dropFields separator short n (rest.drop 1)
    | none => dropFields separator short n ((s.dropWhile isGap).dropWhile (!isGap ·))

/-- The key in a line. -/
def textIn (k : SortKey) (separator : Option Char) (line : Text) : Text :=
  let trim := fun (trims : Bool) (s : Text) => if trims then s.dropWhile isGap else s
  let start := (trim k.trims (dropFields separator false k.fields line)).drop k.characters
  match k.stop with
  | none => start
  | some (fields, 0) =>
    start.take (start.length - (dropFields separator true (fields + 1) line).length)
  | some (fields, characters) =>
    let rest := (trim k.stopTrims (dropFields separator false fields line)).drop characters
    start.take (start.length - rest.length)

/-- The weight of the key in a line. -/
def weight (k : SortKey) (separator : Option Char) (line : Text) : Weight :=
  let has := fun c => c ∈ k.letters
  let s := k.textIn separator line
  let s :=
    if has 'd' then s.filter fun c => isGap c || c.isAlphanum
    else if has 'i' then s.filter fun c => ' ' ≤ c && c ≤ '~'
    else s
  let s := if has 'f' then s.map Char.toUpper else s
  let bare := s.dropWhile isGap
  if has 'n' then .number 0 (Weight.decimalLead bare).1
  else if has 'g' then
    match Fractional.lead? s with
    | none => .number 0 (.ofInt 0)
    | some (x, _) =>
      if x.dividend = 0 && x.divisor = 0 then .number 1 (.ofInt 0)
      else .number 2 (x.rounded .extended).1
  else if has 'h' then
    let (x, rest) := Weight.decimalLead bare
    let rank : Int := if x.dividend = 0 then 0 else (rest.head?.map Weight.unitRank).getD 0
    .number (if x.negative then -rank else rank) x
  else if has 'M' then .number (Weight.monthIn bare) (.ofInt 0)
  else if has 'V' then .version s
  else .text s

end SortKey

/-- How lines are put in order. -/
structure Sorting where
  /-- The keys, of which an earlier one counts more. -/
  keys : List SortKey
  /-- What stands between fields; blanks if that is not told. -/
  separator : Option Char
  /-- Do lines with equal keys stay as they came? -/
  stable : Bool
  /-- Are they otherwise put in reverse order? -/
  reversed : Bool

namespace Sorting

/-- The weights of the keys in a line. -/
def weights (o : Sorting) (line : Text) : List (Weight × Bool) :=
  o.keys.map fun k => (k.weight o.separator line, 'r' ∈ k.letters)

/-- The order of weights, which may be turned around. -/
def compareWeights : List (Weight × Bool) → List (Weight × Bool) → Ordering
  | (v, turned) :: vs, (w, _) :: ws =>
    let found := v.compare w
    (if turned then found.swap else found).then (compareWeights vs ws)
  | _, _ => .eq

/-- The order of lines with their weights. -/
def compare (o : Sorting) (a b : List (Weight × Bool) × Text) : Ordering :=
  let found := compareWeights a.1 b.1
  if o.stable && !o.keys.isEmpty then found
  else
    let last := compareTexts a.2 b.2
    found.then (if o.reversed then last.swap else last)

/-- Lines with their weights. -/
def weighed (o : Sorting) (lines : List Text) : List (List (Weight × Bool) × Text) :=
  lines.map fun line => (o.weights line, line)

/-- May one line stand before another? -/
def allows (o : Sorting) (a b : List (Weight × Bool) × Text) : Bool := o.compare a b != .gt

/-- Weighed lines in order. -/
def sorted (o : Sorting) (lines : List (List (Weight × Bool) × Text)) :
    List (List (Weight × Bool) × Text) :=
  lines.mergeSort o.allows

/-- Of neighbouring lines that are not told apart, the first one. -/
def distinct (o : Sorting) : List (List (Weight × Bool) × Text) →
    List (List (Weight × Bool) × Text)
  | [] => []
  | a :: rest => go a rest
where
  /-- The same, when this line has been the last one. -/
  go : List (Weight × Bool) × Text → List (List (Weight × Bool) × Text) →
      List (List (Weight × Bool) × Text)
    | a, [] => [a]
    | a, b :: rest => if o.compare a b == .eq then go a rest else a :: go b rest

/-- The first line that stands behind one it should not, with its number. -/
def misplaced? (o : Sorting) (distinct : Bool) : (number : Nat) →
    List (List (Weight × Bool) × Text) → Option (Nat × Text)
  | number, a :: b :: rest =>
    let found := o.compare a b
    if found == .gt || (distinct && found == .eq) then some (number + 1, b.2)
    else o.misplaced? distinct (number + 1) (b :: rest)
  | _, _ => none

end Sorting

/-! ### The programs -/

/-- The usage of the program that sorts. -/
def sortUsage : Usage :=
  ⟨"bcCdfghimMnrRsuVz", "koStTy\x01\x02", [("ignore-leading-blanks", 'b'), ("check", 'K'),
    ("dictionary-order", 'd'), ("ignore-case", 'f'), ("general-numeric-sort", 'g'),
    ("human-numeric-sort", 'h'), ("ignore-nonprinting", 'i'), ("key", 'k'), ("merge", 'm'),
    ("month-sort", 'M'), ("numeric-sort", 'n'), ("output", 'o'), ("reverse", 'r'),
    ("random-sort", 'R'), ("stable", 's'), ("buffer-size", 'S'), ("field-separator", 't'),
    ("temporary-directory", 'T'), ("unique", 'u'), ("version-sort", 'V'), ("zero-terminated", 'z'),
    ("sort", '\x01'), ("parallel", '\x02')]⟩

/-- The order that a word names, as a letter. -/
def orderNamed (word : Text) : Except Text Char := do
  let n ← choiceOf "--sort" [["general-numeric"], ["human-numeric"], ["month"], ["numeric"],
    ["random"], ["version"]] word
  return ("ghMnRV".toList[n]?).getD 'n'

/-- The letter for the kind of check that a word names. -/
def checkNamed (word : Text) : Except Text Char := do
  if word.isEmpty then return 'c'
  let n ← choiceOf "--check" [["quiet", "silent"], ["diagnose-first"]] word
  return if n = 0 then 'C' else 'c'

/-- An option whose word names a letter is the same as that letter. -/
def withLetter (option : Char × Text) : Except Text (Char × Text) :=
  match option with
  | ('\x01', word) => (orderNamed word).map (·, [])
  | ('K', word) => (checkNamed word).map (·, [])
  | option => .ok option

/-- What separates fields, as a word tells it. -/
def separatorNamed (word : Text) : Except Text Char :=
  match word with
  | [] => .error "empty tab".toList
  | [c] => .ok c
  | ['\\', '0'] => .ok '\x00'
  | word => .error ("multi-character tab ".toList ++ inCurlyQuotes word)

/-- What the program that sorts is asked for. -/
structure SortRequest where
  /-- The letters of the options. -/
  letters : List Char
  /-- The keys as they are told. -/
  keys : List SortKey
  /-- What separates fields. -/
  separator : Option Char
  /-- Where the result goes. -/
  output : Option Text

/-- One more option. -/
def SortRequest.add (r : SortRequest) (option : Char × Text) : Except Text SortRequest := do
  let (letter, word) := option
  match letter with
  | 'k' => return { r with keys := r.keys ++ [← SortKey.read word] }
  | 't' =>
    let c ← separatorNamed word
    if r.separator.any (· ≠ c) then .error "incompatible tabs".toList
    else return { r with separator := some c }
  | 'o' =>
    if r.output.any (· ≠ word) then .error "multiple output files specified".toList
    else return { r with output := some word }
  | c => return { r with letters := r.letters ++ [c] }

/-- How lines are to be put in order; or what is wrong with that. -/
def SortRequest.sorting (r : SortRequest) : Except Text Sorting := do
  let global := r.letters.filter (· ∈ SortKey.orderLetters)
  let keys := r.keys.map (·.orElse global)
  let whole := SortKey.whole global
  let keys :=
    if keys.isEmpty && (global.any (· ≠ 'r')) then [whole] else keys
  match keys.findSome? SortKey.clash? with
  | some letters => .error ("options '-".toList ++ letters ++ "' are incompatible".toList)
  | none =>
    return ⟨keys, r.separator, 's' ∈ r.letters || 'u' ∈ r.letters, 'r' ∈ global⟩

/-- Complain and end with the status of a program that sorts. -/
def failSorting (said : Text) : Run Unit := modify fun s => (s.failWith 2 said).quit 2

/-- Print sorted text, where a fault is told in two ways. -/
def putSorted (text : Text) : Run Unit := do
  if !text.isEmpty && (← Run.goes) then
    match (← get).put 1 text with
    | (none, s) =>
      set s
      Run.makeRoom
    | (some fault, s) =>
      let said := "fflush failed: 'standard output': ".toList ++ fault.reason
      set (if s.isOver then s
        else ((s.say said).failWith 2 "write error".toList).quit 2)

/-- The lines of files, each without its end; or what is wrong. -/
def sortedInput (stop : Char) (names : List Text) : Run (Except Text (List (List Text))) := do
  let mut found : List (List Text) := []
  for name in names do
    match ← Run.contentOf name with
    | .ok text =>
      let (ended, last) := Run.splitEndedLines stop text
      found := found ++ [if last.isEmpty then ended else ended ++ [last]]
    | .error .isDirectory =>
      return .error ("read failed: ".toList ++ asShellWord name ++ ": Is a directory".toList)
    | .error fault =>
      return .error ((if name = ['-'] then "stat failed: ".toList else "open failed: ".toList)
        ++ asShellWord name ++ ": ".toList ++ fault.reason)
  return .ok found

/-- Print lines in order, or tell whether they are. -/
def sortFiles (r : SortRequest) (o : Sorting) (names : List Text) : Run Unit := do
  let has := fun c => c ∈ r.letters
  let checks := has 'c' || has 'C'
  let s ← get
  let unread := names.findSome? fun name =>
    if name = ['-'] then none
    else
      match s.openPath .reading name with
      | .ok _ => none
      | .error .isDirectory => none
      | .error fault => some (name, fault)
  match unread with
  | some (name, fault) =>
    failSorting ("cannot read: ".toList ++ asShellWord name ++ ": ".toList ++ fault.reason)
  | none =>
    let refuse := fun (name : Text) (fault : IoFault) =>
      failSorting ("open failed: ".toList ++ asShellWord name ++ ": ".toList ++ fault.reason)
    -- what is written to is opened first, but it keeps what it holds until all is read
    if let some name := r.output then
      match s.openPath .appending name with
      | .ok (id, s) =>
        let descriptor := s.freeDescriptor
        set ((s.setChannel descriptor id).close descriptor)
      | .error fault => refuse name fault
    if ← Run.goes then
      let stop := if has 'z' then '\x00' else '\n'
      match ← sortedInput stop names with
      | .error said => failSorting said
      | .ok files =>
        if checks then
          match o.misplaced? (has 'u') 1 (o.weighed files.flatten) with
          | none => return
          | some (number, line) =>
            if has 'c' then
              Run.say ((names.head?.getD ['-']) ++ ':' :: Text.ofNat number ++ ": disorder: ".toList
                ++ line)
            modify (·.withStatus 1)
        else
          let lines :=
            if has 'm' then
              (files.map o.weighed).foldl (fun found more => found.merge more o.allows) []
            else o.sorted (o.weighed files.flatten)
          let lines := if has 'u' then o.distinct lines else lines
          if let some name := r.output then
            match (← get).openPath .writing name with
            | .ok (id, s) => set (s.setChannel 1 id)
            | .error fault => refuse name fault
          putSorted (lines.flatMap fun line => line.2 ++ [stop])

/-- Print the lines of files in order. -/
def printSorted : Utility :=
  sortUsage.programOr 2 fun options operands => do
    let names := if operands.isEmpty then [['-']] else operands
    match options.mapM withLetter with
    | .error said => modify (·.misuse said)
    | .ok options =>
    match options.foldlM SortRequest.add ⟨[], [], none, none⟩ with
    | .error said => failSorting said
    | .ok r =>
      let has := fun c => c ∈ r.letters
      if has 'c' && has 'C' then failSorting "options '-cC' are incompatible".toList
      else
        match r.sorting with
        | .error said => failSorting said
        | .ok o =>
          let check := if has 'c' then some 'c' else if has 'C' then some 'C' else none
          match check, names, r.output with
          | some c, _ :: extra :: _, _ =>
            failSorting ("extra operand ".toList ++ inShellQuotes extra ++ " not allowed with -".toList
              ++ [c])
          | some c, _, some _ =>
            failSorting ("options '-".toList ++ c :: "o' are incompatible".toList)
          | _, _, _ => sortFiles r o names

/-! ### Lines that come again -/

/-- What is printed of lines that come again. -/
structure Repetition where
  /-- Are lines told that come once? -/
  single : Bool
  /-- Is the first, or the last, of several lines told? -/
  first : Bool
  /-- Are the others? -/
  later : Bool
  /-- Is the number of lines told? -/
  counts : Bool
  /-- The end of lines. -/
  stop : Char

namespace Repetition

/-- What is printed of lines that are the same. -/
def text (r : Repetition) (lines : List Text) : Text :=
  let shown := fun line : Text =>
    (if r.counts then Text.padLeft 7 (Text.ofNat lines.length) ++ [' '] else [])
      ++ line ++ [r.stop]
  let told :=
    match lines with
    | [line] => if r.single then [line] else []
    | lines =>
      if r.later then lines.dropLast ++ (if r.first then lines.drop (lines.length - 1) else [])
      else if r.first then lines.take 1
      else []
  told.flatMap shown

end Repetition

/-- Which parts of lines make no difference. -/
structure Similarity where
  /-- How many fields are passed over. -/
  fields : Nat
  /-- How many octets behind them. -/
  octets : Nat
  /-- How many octets are compared at most. -/
  most : Option Nat
  /-- Is the case of letters passed over? -/
  foldsCase : Bool

/-- What is compared of a line. -/
def Similarity.part (m : Similarity) (line : Text) : Text :=
  let s := (SortKey.dropFields none false m.fields line).drop m.octets
  let s := match m.most with | some n => s.take n | none => s
  if m.foldsCase then s.map Char.toUpper else s

/-- Lines put together with neighbours that are the same. -/
def Similarity.groups (m : Similarity) (lines : List Text) : List (List Text) :=
  let step := fun (line : Text) (found : List (Text × List Text)) =>
    let part := m.part line
    match found with
    | (other, same) :: rest =>
      if part = other then (part, line :: same) :: rest else (part, [line]) :: found
    | [] => [(part, [line])]
  (lines.foldr step []).map Prod.snd

/-- The numbers that options without a letter tell are those of fields. -/
def withFieldCount (args : List Text) : List Text :=
  args.map fun word =>
    match word with
    | '-' :: c :: more =>
      if (c :: more).all Char.isDigit then '-' :: 'f' :: c :: more else word
    | '+' :: c :: more =>
      if (c :: more).all Char.isDigit then '-' :: 's' :: c :: more else word
    | _ => word

/-- The ways to set groups of lines apart. -/
def groupings : List (List String) := [["prepend"], ["append"], ["separate"], ["both"]]

/-- The ways to set groups of lines that come again apart. -/
def repeatGroupings : List (List String) := [["none"], ["prepend"], ["separate"]]

/-- Print lines, those that come one after another only once. -/
def printDistinct : Utility := fun args =>
  Usage.program ⟨"cdDiuz", "fsw", [("count", 'c'), ("repeated", 'd'), ("all-repeated", 'A'),
    ("group", 'G'), ("ignore-case", 'i'), ("unique", 'u'), ("zero-terminated", 'z'),
    ("skip-fields", 'f'), ("skip-chars", 's'), ("check-chars", 'w')]⟩ (fun options operands => do
    let given := fun c => isGiven c options
    let number := fun (letter : Char) (what : String) =>
      match wordOf? letter options with
      | none => Except.ok none
      | some word =>
        match digitsValue? 10 word with
        | some n => .ok (some n)
        | none => .error (word ++ ": invalid number of ".toList ++ what.toList)
    let choice := fun (letter : Char) (option : String) (choices : List (List String))
        (usual : Nat) =>
      match wordOf? letter options with
      | none => Except.ok none
      | some [] => .ok (some usual)
      | some word => (choiceOf option choices word).map some
    let read : Except Text (Option Nat × Option Nat × Option Nat) := do
      return (← number 'f' "fields to skip", ← number 's' "bytes to skip",
        ← number 'w' "bytes to compare")
    let all := given 'D' || given 'A'
    match read, choice 'A' "--all-repeated" repeatGroupings 0, choice 'G' "--group" groupings 2,
        operands with
    | .error said, _, _, _ => Run.fail said
    | _, .error said, _, _ => modify (·.misuse said)
    | _, _, .error said, _ => modify (·.misuse said)
    | _, _, _, _ :: _ :: extra :: _ =>
      modify (·.misuse ("extra operand ".toList ++ inCurlyQuotes extra))
    | .ok (fields, octets, most), .ok repeats, .ok group, operands =>
      if group.isSome && (given 'c' || given 'd' || all || given 'u') then
        modify (·.misuse "--group is mutually exclusive with -c/-d/-D/-u".toList)
      else if all && given 'c' then
        modify (·.misuse
          "printing all duplicated lines and repeat counts is meaningless".toList)
      else
        let stop := if given 'z' then '\x00' else '\n'
        let name := operands.head?.getD ['-']
        let refuse := fun (fault : IoFault) =>
          Run.fail (asShellWord name ++ ": ".toList ++ fault.reason)
        let found ← Run.withInput name fun id => do
          if let output :: _ := operands.drop 1 then
            if output ≠ ['-'] then
              match (← get).openPath .writing output with
              | .ok (id, s) => set (s.setChannel 1 id)
              | .error fault =>
                modify fun s => (s.fail (asShellWord output ++ ": ".toList ++ fault.reason)).quit 1
          if ← Run.goes then Run.readAllFrom id else return .ok []
        match found with
        | .error .badDescriptor =>
          Run.fail ("error reading ".toList ++ inShellQuotes name ++ ": Bad file descriptor".toList)
        | .error fault => refuse fault
        | .ok (.error fault) =>
          Run.fail ("error reading ".toList ++ inShellQuotes name ++ ": ".toList ++ fault.reason)
        | .ok (.ok text) =>
          let (ended, last) := Run.splitEndedLines stop text
          let lines := if last.isEmpty then ended else ended ++ [last]
          let m : Similarity := ⟨fields.getD 0, octets.getD 0, most, given 'i'⟩
          let groups := m.groups lines
          let rep : Repetition :=
            ⟨!(given 'd' || all), !given 'u', all, given 'c', stop⟩
          let text :=
            match group with
            | some way =>
              let lead := if way = 0 || way = 3 then [stop] else []
              let ending := if way = 1 || way = 3 then [stop] else []
              let shown := groups.map fun lines => lines.flatMap (· ++ [stop])
              if shown.isEmpty then []
              else lead ++ Text.join [stop] shown ++ ending
            | none =>
              let several := groups.filter fun lines => !all || lines.length ≠ 1
              let shown := several.map rep.text
              match repeats with
              | some 1 => shown.flatMap (stop :: ·)
              | some 2 => Text.join [stop] shown
              | _ => shown.flatten
          Run.print text) (withFieldCount args)

end Utility

end NameTables.Script
