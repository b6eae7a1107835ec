import NameTables.Script.Interpreter
import NameTables.Script.Utility.Find.Predicate

/-!
# Looking for files

A program that visits files from some places on, each directory before or after what is in it, and
asks of each what its words tell.

## Main definitions

* `Visit` — a file that is looked at.
* `Predicate.ask` — whether a predicate holds of it, after what is done with it.
* `visitAll` — a file, and all below it.
* `findFiles` — the program.
-/

namespace NameTables.Script.Utility

open Shell (path)

/-- A file that is looked at. -/
structure Visit where
  /-- Its path, from the place that was told. -/
  path : Text
  /-- The place that was told. -/
  start : Text
  /-- Where it is. -/
  place : Place
  /-- What is there, or what that leads to. -/
  node : Node
  /-- How many directories lie between it and the place that was told. -/
  depth : Nat

/-- How far looking has come. -/
structure Search where
  /-- Has anything gone wrong? -/
  failed : Bool
  /-- Has it been ended? -/
  stopped : Bool
  /-- Is what is in the present directory passed over? -/
  pruned : Bool
  /-- The paths that wait for commands, by the numbers of these, the last one first. -/
  waiting : List (Nat × Text)

/-- A step of looking for files. -/
abbrev Finding := StateT Search Run

namespace Finding

/-- A step of the shell. -/
def run {α : Type} (act : Run α) : Finding α := fun st => do return (← act, st)

/-- Say what is wrong. -/
def complain (said : Text) : Finding Unit := do
  run (Run.say said)
  modify fun st => { st with failed := true }

end Finding

/-! ### What is told of a file -/

/-- The directory of a path. -/
def directoryOf (p : Text) : Text :=
  if '/' ∈ p then
    let lead := (p.reverse.dropWhile (· ≠ '/')).drop 1
    if lead.isEmpty then ['/'] else lead.reverse
  else ['.']

/-- The letter of a kind. -/
def findLetter (node : Node) : Char :=
  match node with
  | .file _ => 'f'
  | node => kindLetter node

/-- What a letter in a format stands for; nothing for most letters. -/
def Visit.part? (v : Visit) (fs : Files) (c : Char) : Option Text :=
  match c with
  | 'p' => some v.path
  | 'f' => some (lastPart v.path [])
  | 'h' => some (directoryOf v.path)
  | 'H' => some v.start
  | 'P' =>
    let rest := v.path.drop v.start.length
    some (if rest.head? = some '/' then rest.tail else rest)
  | 's' => some (Text.ofNat (sizeOf fs v.node))
  | 'b' => some (Text.ofNat (2 * blocksOf fs v.node))
  | 'k' => some (Text.ofNat (blocksOf fs v.node))
  | 'm' => some (modeDigits 1 (modeOf fs v.node))
  | 'M' => some (fullLetters fs v.node)
  | 'y' => some [findLetter v.node]
  | 'Y' =>
    some (match fs.locate (Files.pathOf v.place) with
      | .ok place =>
        match fs.node? place with
        | some node => [findLetter node]
        | none => ['N']
      | .error .tooManyLinks => ['L']
      | .error _ => ['N'])
  | 'd' => some (Text.ofNat v.depth)
  | 'l' => some (match v.node with | .link target => octets target | _ => [])
  | 'i' => some (match v.node with | .file number => Text.ofNat number | _ => ['1'])
  | 'n' => some (Text.ofNat (namesOf fs v.place v.node))
  | 'u' => some "root".toList
  | 'g' => some "root".toList
  | 'U' => some ['0']
  | 'G' => some ['0']
  | 't' => some (dateText (timeOf fs v.node) "%a %b %e %H:%M:%S.%N0 %Y".toList)
  | 'a' => some (dateText (timeOf fs v.node) "%a %b %e %H:%M:%S.%N0 %Y".toList)
  | 'c' => some (dateText (timeOf fs v.node) "%a %b %e %H:%M:%S.%N0 %Y".toList)
  | _ => none

/-- The time of a change, as the letter behind a sign for it tells. -/
def Visit.timePart (v : Visit) (fs : Files) (c : Char) : Text :=
  let format :=
    match c with
    | '@' => "%s.%N0".toList
    | '+' => "%F+%T.%N0".toList
    | 'S' => "%S.%N0".toList
    | 'T' => "%T.%N0".toList
    | c => ['%', c]
  dateText (timeOf fs v.node) format

/-- A format filled with what is told of a file. -/
def Visit.filled (v : Visit) (fs : Files) : (fuel : Nat) → Text → Text
  | 0, _ => []
  | _, [] => []
  | fuel + 1, '%' :: '%' :: rest => '%' :: v.filled fs fuel rest
  | fuel + 1, '%' :: rest =>
    let (l, after, _) := layoutOf rest []
    match after with
    | [] => '%' :: rest
    | 'T' :: c :: after => l.text (v.timePart fs c) ++ v.filled fs fuel after
    | c :: after =>
      match v.part? fs c with
      | some text => l.text text ++ v.filled fs fuel after
      | none => '%' :: rest.take (rest.length - after.length) ++ v.filled fs fuel after
  | fuel + 1, '\\' :: rest =>
    match rest with
    | 'c' :: _ => []
    | rest =>
      let digits := (rest.take 3).takeWhile isOctal
      if digits.isEmpty then
        match rest with
        | c :: after =>
          match escaped? c with
          | some d => d :: v.filled fs fuel after
          | none => '\\' :: c :: v.filled fs fuel after
        | [] => ['\\']
      else octalChar digits :: v.filled fs fuel (rest.drop digits.length)
  | fuel + 1, c :: rest => c :: v.filled fs fuel rest

/-- The letters in a format that stand for nothing. -/
def strangeParts : (fuel : Nat) → Text → List Text
  | 0, _ => []
  | _, [] => []
  | fuel + 1, '%' :: '%' :: rest => strangeParts fuel rest
  | fuel + 1, '%' :: rest =>
    let (_, after, _) := layoutOf rest []
    match after with
    | [] => []
    | 'T' :: _ :: after => strangeParts fuel after
    | c :: after =>
      let lead := rest.take (rest.length - after.length)
      if c ∈ "pfhHPsbkmMyYdlinugUGtac".toList then strangeParts fuel after
      else
        ("warning: unrecognized format directive `%".toList ++ lead ++ ['\''])
          :: strangeParts fuel after
  | fuel + 1, '\\' :: c :: rest =>
    if (escaped? c).isSome || isOctal c || c = 'c' then strangeParts fuel rest
    else ("warning: unrecognized escape `\\".toList ++ c :: ['\'']) :: strangeParts fuel rest
  | fuel + 1, _ :: rest => strangeParts fuel rest

/-! ### Asking -/

/-- The number of units that something takes, a part of one counted as one. -/
def unitsOf (size unit : Nat) : Nat := (size + unit - 1) / unit

/-- Remove a file, or a directory with nothing in it. -/
def removeFound (v : Visit) : Finding Bool := do
  let s ← Finding.run get
  if v.path = ['.'] then return true
  match s.files.node? v.place with
  | none =>
    Finding.complain ("cannot delete ".toList ++ inCurlyQuotes v.path
      ++ ": No such file or directory".toList)
    return false
  | some node =>
    if node.isDirectory && !isEmptyDirectory s.files v.place then
      Finding.complain ("cannot delete ".toList ++ inCurlyQuotes v.path
        ++ ": Directory not empty".toList)
      return false
    else
      Finding.run (setFiles (s.files.erase v.place))
      return true

/-- A word with all pairs of braces in it replaced. -/
def withoutBraces (found : Text) : Text → Text
  | '\x7b' :: '\x7d' :: rest => found ++ withoutBraces found rest
  | c :: rest => c :: withoutBraces found rest
  | [] => []

/-- Call a program, in a directory if one is told; tell whether it succeeds. -/
def callFound (within : Option Place) (words : List Text) : Finding Bool := do
  let prepare := fun s : Shell =>
    match within with
    | some dir => { s with files := { s.files with here := dir } }
    | none => s
  let name := words.head?.getD []
  match ← Finding.run (Run.callProgram prepare name words.tail) with
  | .error fault =>
    Finding.run (Run.say (inCurlyQuotes name ++ ": ".toList ++ fault.reason))
    return false
  | .ok (.exited 0) => return true
  | .ok _ => return false

/-- Does the predicate hold?  What it does is done. -/
def Predicate.ask (v : Visit) : Predicate → Finding Bool
  | .truth b => return b
  | .named pattern folds => return fits folds pattern (lastPart v.path [])
  | .pathed pattern folds => return fits folds pattern v.path
  | .matched r folds =>
    let s := symbolsOf v.path
    return (r.ends folds r.looksBack (.ofText s)).any fun st => st.rest.isEmpty
  | .linkedTo pattern folds =>
    match v.node with
    | .link target => return fits folds pattern (octets target)
    | _ => return false
  | .kind letters follows => do
    let fs := (← Finding.run get).files
    let node :=
      if follows then
        (match fs.locate (Files.pathOf v.place) with
          | .ok place => (fs.node? place).getD v.node
          | .error _ => v.node)
      else v.node
    return findLetter node ∈ letters
  | .empty => do
    let fs := (← Finding.run get).files
    match v.node with
    | .directory _ => return isEmptyDirectory fs v.place
    | .file number => return (fs.content number).isEmpty
    | _ => return false
  | .sized b unit => do
    let fs := (← Finding.run get).files
    return b.allows (unitsOf (sizeOf fs v.node) unit)
  | .permitted test mode => do
    let fs := (← Finding.run get).files
    let found := modeOf fs v.node
    match test with
    | .exactly => return found = mode
    | .allOf => return keep found mode = mode
    | .anyOf => return mode = 0 || keep found mode ≠ 0
  | .allowed bits => do
    let fs := (← Finding.run get).files
    return bits = 0 || v.node.isDirectory || keep (modeOf fs v.node) bits ≠ 0
  | .newer time => do
    let fs := (← Finding.run get).files
    return time < timeOf fs v.node
  | .aged b unit => do
    let fs := (← Finding.run get).files
    return b.allows ((fs.now - timeOf fs v.node).fdiv unit)
  | .linked b => do
    let fs := (← Finding.run get).files
    return b.allows (namesOf fs v.place v.node)
  | .same place => do
    let fs := (← Finding.run get).files
    return place = v.place || (match fs.node? place, v.node with
      | some (.file m), .file n => m = n
      | _, _ => false)
  | .print stop => do
    Finding.run (Run.printAs "'standard output'" 1 (v.path ++ [stop]))
    return true
  | .printAs format => do
    let fs := (← Finding.run get).files
    Finding.run (Run.print (v.filled fs (format.length + 1) format))
    return true
  | .delete => removeFound v
  | .prune => do
    modify fun st => { st with pruned := true }
    return true
  | .quit => do
    modify fun st => { st with stopped := true }
    return true
  | .call words within =>
    let p := if within then "./".toList ++ lastPart v.path [] else v.path
    callFound (if within && 0 < v.depth then some v.place.tail else none)
      (words.map (withoutBraces p))
  | .gather number _ => do
    modify fun st => { st with waiting := (number, v.path) :: st.waiting }
    return true
  | .not p => do
    let b ← p.ask v
    if (← get).stopped then return false else return !b
  | .and p q => do
    if ← p.ask v then
      if (← get).stopped then return false else q.ask v
    else return false
  | .or p q => do
    if ← p.ask v then return true
    else if (← get).stopped then return false
    else q.ask v
  | .after p q => do
    let _ ← p.ask v
    if (← get).stopped then return false else q.ask v
where
  /-- Does a text fit a pattern, in whatever case if that is said? -/
  fits (folds : Bool) (pattern s : Text) : Bool :=
    let fold := fun s : Text => if folds then s.map Char.toLower else s
    fitsPattern (fold pattern) (fold s)

/-! ### Visiting -/

/-- What is at a place, or what it leads to if links are followed and that is there. -/
def nodeFor (fs : Files) (follows : Bool) (place : Place) : Option (Place × Node) :=
  match fs.node? place with
  | some (.link target) =>
    if follows then
      match fs.locate (Files.pathOf place) with
      | .ok other => some ((fs.node? other).elim (place, .link target) (other, ·))
      | .error _ => some (place, .link target)
    else some (place, .link target)
  | some node => some (place, node)
  | none => none

/-- Ask of a file, and of all below it; they are so many levels deep at most. -/
def visitAll (w : Wish) (p : Predicate) : (levels : Nat) → Visit → Finding Unit
  | 0, _ => return
  | levels + 1, v => do
    if (← get).stopped || !(← Finding.run Run.goes) then return
    let ask : Finding Unit := do
      if w.least ≤ v.depth then
        let _ ← p.ask v
    modify fun st => { st with pruned := false }
    if !w.inward then ask
    let st ← get
    let goesOn := !st.stopped && (!st.pruned || w.inward) && w.most.all (v.depth < ·)
    if v.node.isDirectory && goesOn then
      let fs := (← Finding.run get).files
      if (fs.node? v.place).isNone then
        Finding.complain (inCurlyQuotes v.path ++ ": No such file or directory".toList)
      else
        let children := ((fs.entries v.place).map fun (name, _) => (octets name, name)).mergeSort
          fun a b => a.1 ≤ b.1
        for (name, child) in children do
          let fs := (← Finding.run get).files
          let p' := inside v.path name
          if !(← get).stopped then
            match nodeFor fs w.follows (child :: v.place) with
            | some (place, node) => visitAll w p levels ⟨p', v.start, place, node, v.depth + 1⟩
            | none =>
              Finding.complain (inCurlyQuotes p' ++ ": No such file or directory".toList)
    if w.inward && !(← get).stopped then ask

/-- How deep directories are looked into. -/
def findDepth : Nat := 1000

/-- Look from the places that are told. -/
def findFrom (w : Wish) (p : Predicate) (followsFirst : Bool) : List Text → Finding Unit
  | [] => return
  | name :: rest => do
    if !(← get).stopped then
      let fs := (← Finding.run get).files
      let refuse := fun fault : IoFault =>
        Finding.complain (inCurlyQuotes name ++ ": ".toList ++ fault.reason)
      match fs.locateLink (path name) with
      | .error fault => refuse fault
      | .ok place =>
        match nodeFor fs (w.follows || followsFirst) place with
        | some (place, node) => visitAll w p findDepth ⟨name, name, place, node, 0⟩
        | none => refuse .notFound
      findFrom w p followsFirst rest

/-- How many octets the words of a command for many files have at most. -/
def gatherRoom : Nat := 131072

/-- Paths in groups that are not too long. -/
def groupsOf (room : Nat) : List Text → List (List Text)
  | [] => []
  | p :: rest =>
    match groupsOf room rest with
    | group :: groups =>
      if (p.length + 1) + total (group.map (·.length + 1)) ≤ room then (p :: group) :: groups
      else [p] :: group :: groups
    | [] => [[p]]

/-- Call programs with the paths that wait. -/
def callGathered (p : Predicate) : Finding Unit := do
  for (number, words) in p.gathered do
    let found := (((← get).waiting.filter (·.1 == number)).map Prod.snd).reverse
    for group in groupsOf gatherRoom found do
      if !(← callFound none (words ++ group)) then
        modify fun st => { st with failed := true }

/-- The words in front of the places, and what they tell: whether links are followed everywhere, or
where places are told. -/
def leadingSwitches : (follows followsFirst : Bool) → List Text → Bool × Bool × List Text
  | follows, first, word :: rest =>
    match String.ofList word with
    | "-P" => leadingSwitches false false rest
    | "-L" => leadingSwitches true true rest
    | "-H" => leadingSwitches false true rest
    | "--" => (follows, first, rest)
    | _ =>
      match word with
      | ['-', 'O', _] => leadingSwitches follows first rest
      | _ => (follows, first, word :: rest)
  | follows, first, [] => (follows, first, [])

/-- Look for files. -/
def findFiles : Utility := fun args => do
  let s ← get
  let (follows, followsFirst, args) := leadingSwitches false false args
  let names := args.takeWhile (!isFindWord true ·)
  let words := args.drop names.length
  let start : Wish := ⟨none, 0, false, follows, []⟩
  match readFindWords s (words.length + 1) start [] words with
  | .error said => do
    said.forM Run.say
    modify (·.withStatus 1)
  | .ok (words, w) =>
    match readPredicates words with
    | .error said => Run.fail said
    | .ok p =>
      let formats := words.flatMap fun word =>
        match word with
        | .leaf (.printAs format) => strangeParts (format.length + 1) format
        | _ => []
      formats.forM Run.say
      let act : Finding Unit := do
        findFrom w p followsFirst (if names.isEmpty then [['.']] else names)
        callGathered p
      let (_, st) ← act ⟨false, false, false, []⟩
      if ← Run.goes then modify (·.withStatus (if st.failed then 1 else 0))

end NameTables.Script.Utility
