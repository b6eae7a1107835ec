import NameTables.Script.Regex.Reading
import NameTables.Script.Utility.State

/-!
# What is looked for

What the program that looks for files asks of each of them, and what it does with those it finds: both
are predicates, since what is done may fail as what is asked may be false.  They are told by words,
with operators between them.

## Main definitions

* `Predicate` — what is asked, or done.
* `Wish` — all that words tell.
* `Predicate.readWord` — a predicate and its words.
* `readPredicates` — predicates with operators between them.
-/

namespace NameTables.Script

namespace Utility

open Shell (path)

/-- A number, or all below or above it. -/
structure Bound where
  /-- The sign. -/
  sign : Option Char
  /-- The number. -/
  number : Nat

/-- Does a number fit? -/
def Bound.allows (b : Bound) (n : Int) : Bool :=
  match b.sign with
  | some '-' => n < b.number
  | some _ => b.number < n
  | none => n = b.number

/-- How permissions are compared. -/
inductive ModeTest
  /-- They are these. -/
  | exactly
  /-- All of these are among them. -/
  | allOf
  /-- Any of these is among them. -/
  | anyOf

/-- What is asked of a file, or done with it. -/
inductive Predicate
  /-- It always holds, or never. -/
  | truth (b : Bool)
  /-- The name fits a pattern, in whatever case if `folds` says so. -/
  | named (pattern : Text) (folds : Bool)
  /-- The path does. -/
  | pathed (pattern : Text) (folds : Bool)
  /-- The regular expression matches the path. -/
  | matched (r : Regex) (folds : Bool)
  /-- The target of the link fits a pattern. -/
  | linkedTo (pattern : Text) (folds : Bool)
  /-- It is of one of these kinds, as it is or as what it leads to. -/
  | kind (letters : List Char) (follows : Bool)
  /-- There is nothing in it. -/
  | empty
  /-- Its size in units is within a bound. -/
  | sized (b : Bound) (unit : Nat)
  /-- Its permissions are as they should be. -/
  | permitted (test : ModeTest) (mode : Nat)
  /-- Somebody may do something with it. -/
  | allowed (bits : Nat)
  /-- It has changed after a time. -/
  | newer (time : Int)
  /-- It has changed so many units of time ago. -/
  | aged (b : Bound) (unit : Int)
  /-- It has so many names. -/
  | linked (b : Bound)
  /-- It is the same as what is at a place. -/
  | same (place : Place)
  /-- Print its path and a character. -/
  | print (stop : Char)
  /-- Print by a format. -/
  | printAs (format : Text)
  /-- Remove it. -/
  | delete
  /-- Do not look into it. -/
  | prune
  /-- End all. -/
  | quit
  /-- Call a program with its path in some words, maybe in its directory. -/
  | call (words : List Text) (within : Bool)
  /-- Call a program later, with the paths of many files; these are kept under a number. -/
  | gather (number : Nat) (words : List Text)
  /-- The predicate does not hold. -/
  | not (p : Predicate)
  /-- The first one holds, and the second one too. -/
  | and (p q : Predicate)
  /-- The first one holds, or the second one does. -/
  | or (p q : Predicate)
  /-- The second one holds, after the first one was asked. -/
  | after (p q : Predicate)

namespace Predicate

/-- Does it do something that takes the place of printing? -/
def acts : Predicate → Bool
  | .print _ | .printAs _ | .delete | .quit | .call .. | .gather .. => true
  | _ => false

/-- The commands for many files, with their numbers. -/
def gathered : Predicate → List (Nat × List Text)
  | .gather number words => [(number, words)]
  | .not p => p.gathered
  | .and p q | .or p q | .after p q => p.gathered ++ q.gathered
  | _ => []

end Predicate

/-- All that words tell. -/
structure Wish where
  /-- How deep files are at most. -/
  most : Option Nat
  /-- How deep they are at least. -/
  least : Nat
  /-- Does a directory come after what is in it? -/
  inward : Bool
  /-- Are links followed? -/
  follows : Bool
  /-- The kind of regular expressions. -/
  dialect : Text

/-- Words that have been read. -/
inductive FindWord
  /-- A predicate. -/
  | leaf (p : Predicate)
  /-- An operator or a parenthesis, as it is written. -/
  | sign (text : Text)

/-! ### Predicates and their words -/

/-- The number that a word tells, maybe with a sign. -/
def boundIn? (word : Text) : Option Bound :=
  match word with
  | '+' :: digits => (digitsValue? 10 digits).map (⟨some '+', ·⟩)
  | '-' :: digits => (digitsValue? 10 digits).map (⟨some '-', ·⟩)
  | digits => (digitsValue? 10 digits).map (⟨none, ·⟩)

/-- The units of sizes. -/
def findUnits : List (Char × Nat) :=
  [('b', 512), ('c', 1), ('w', 2), ('k', 1024), ('M', Nat.pow 1024 2), ('G', Nat.pow 1024 3)]

/-- A message about the word of an option. -/
def badWord (name word : Text) : Text :=
  "invalid argument `".toList ++ word ++ "' to `".toList ++ name ++ ['\'']

/-- The letters of kinds that a word tells. -/
def kindsIn (name word : Text) : Except Text (List Char) :=
  match splitAt (· = ',') word with
  | [[]] => .error ("Arguments to ".toList ++ name ++ " should contain at least one letter".toList)
  | parts =>
    parts.mapM fun part =>
      match part with
      | [c] =>
        if c ∈ "bcdfpls".toList then .ok c
        else .error ("Unknown argument to ".toList ++ name ++ ": ".toList ++ [c])
      | c :: _ =>
        if c ∈ "bcdfpls".toList then
          .error ("Must separate multiple arguments to ".toList ++ name ++ " using: ','".toList)
        else .error ("Unknown argument to ".toList ++ name ++ ": ".toList ++ [c])
      | [] => .error ("Last file type in list argument to ".toList ++ name
          ++ " is missing, i.e., list is ending on: ','".toList)

/-- The test of permissions that a word tells. -/
def modeTestIn (word : Text) : Except Text Predicate :=
  let (test, mode) :=
    match word with
    | '-' :: mode => (ModeTest.allOf, mode)
    | '/' :: mode => (ModeTest.anyOf, mode)
    | mode => (ModeTest.exactly, mode)
  let isWrong := mode.head? = some '+' && (mode.tail.head?.map Char.isDigit).getD false
  match if isWrong then none else modeChanges? mode with
  | some changes => .ok (.permitted test (changedMode false 0 changes 0))
  | none => .error ("invalid mode ".toList ++ inCurlyQuotes word)

/-- The words of a command up to its end, what follows, and whether it is one for many files. -/
def commandWords : (before : List Text) → List Text → Option (List Text × List Text × Bool)
  | before, word :: rest =>
    if word = [';'] then some (before.reverse, rest, false)
    else if word = ['+'] && before.head?.any (Text.contains ['\x7b', '\x7d']) then
      some (before.reverse, rest, true)
    else commandWords (word :: before) rest
  | _, [] => none

/-- The command that words tell, and what follows. -/
def readCommand (name : Text) (within : Bool) (number : Nat) (words : List Text) :
    Except Text (Predicate × List Text) :=
  let braces : Text := ['\x7b', '\x7d']
  match commandWords [] words with
  | none => .error ("missing argument to `".toList ++ name ++ ['\''])
  | some ([], _, _) => .error (badWord name [';'])
  | some (found, rest, false) => .ok (.call found within, rest)
  | some (found, rest, true) =>
    let marked := found.filter (Text.contains braces)
    if 1 < marked.length then
      .error ("Only one instance of ".toList ++ braces ++ " is supported with ".toList ++ name
        ++ " ... +".toList)
    else if found.getLast? ≠ some braces then
      .error ("In ".toList ++ inCurlyQuotes (name ++ " ... ".toList ++ braces ++ " +".toList)
        ++ " the ".toList ++ inCurlyQuotes braces
        ++ " must appear by itself, but you specified ".toList
        ++ inCurlyQuotes (found.getLast?.getD []))
    else .ok (.gather number found.dropLast, rest)

/-- A pattern of the usual kind, in the way of signs that repeat without a backslash. -/
def withPlainSigns : Text → Text
  | '\\' :: c :: rest =>
    if c = '+' || c = '?' then c :: withPlainSigns rest else '\\' :: c :: withPlainSigns rest
  | c :: rest =>
    if c = '+' || c = '?' then '\\' :: c :: withPlainSigns rest else c :: withPlainSigns rest
  | [] => []

/-- The regular expression that a word tells in a dialect. -/
def findRegex (dialect word : Text) : Except Text Regex :=
  let extended := Text.contains "extended".toList dialect || Text.contains "egrep".toList dialect
  let basic := Text.contains "basic".toList dialect || Text.contains "grep".toList dialect
    || dialect = "sed".toList || dialect = "ed".toList
  let word := if extended || basic then word else withPlainSigns word
  match Regex.read ⟨extended, true, extended, false, false⟩ (symbolsOf word) with
  | .ok (r, _) => .ok r
  | .error fault =>
    .error ("failed to compile regular expression '".toList ++ word ++ "': ".toList ++ fault.message)

/-- One of the words in front of everything else; it changes how files are looked for. -/
def Wish.add? (w : Wish) (name : Text) : Option Wish :=
  match String.ofList name with
  | "-depth" | "-d" => some { w with inward := true }
  | "-follow" => some { w with follows := true }
  | "-mount" | "-xdev" | "-noleaf" | "-warn" | "-nowarn" | "-daystart"
  | "-ignore_readdir_race" | "-noignore_readdir_race" => some w
  | _ => none

/-- A number of levels that a word tells. -/
def levelsIn (name word : Text) : Except Text Nat :=
  match if word.all Char.isDigit then digitsValue? 10 word else none with
  | some n => .ok n
  | none =>
    .error ("Expected a positive decimal integer argument to ".toList ++ name ++ ", but got ".toList
      ++ inCurlyQuotes word)

/-- The predicate with a name and no other words. -/
def Predicate.plain? (name : Text) : Option Predicate :=
  match String.ofList name with
  | "-true" => some (.truth true)
  | "-false" | "-nouser" | "-nogroup" => some (.truth false)
  | "-empty" => some .empty
  | "-readable" => some (.allowed 0)
  | "-writable" => some (.allowed 0)
  | "-executable" => some (.allowed 0o111)
  | "-print" => some (.print '\n')
  | "-print0" => some (.print '\x00')
  | "-delete" => some .delete
  | "-prune" => some .prune
  | "-quit" => some .quit
  | _ => none

/-- The predicate with a name and one other word; there is none with most names. -/
def Predicate.withWord? (s : Shell) (w : Wish) (name word : Text) :
    Option (Except Text Predicate) :=
  let bound := fun (make : Bound → Predicate) =>
    match boundIn? word with
    | some b => Except.ok (make b)
    | none => .error (badWord name word)
  let timeAt := fun word : Text =>
    match s.files.locate (path word) with
    | .ok place =>
      match s.files.node? place with
      | some node => Except.ok (place, timeOf s.files node)
      | none => .error (inCurlyQuotes word ++ ": No such file or directory".toList)
    | .error fault => .error (inCurlyQuotes word ++ ": ".toList ++ fault.reason)
  let minute : Int := 60 * Duration.perSecond
  let day : Int := 1440 * minute
  match String.ofList name with
  | "-name" => some (.ok (.named word false))
  | "-iname" => some (.ok (.named word true))
  | "-path" | "-wholename" => some (.ok (.pathed word false))
  | "-ipath" | "-iwholename" => some (.ok (.pathed word true))
  | "-regex" => some ((findRegex w.dialect word).map (.matched · false))
  | "-iregex" => some ((findRegex w.dialect word).map (.matched · true))
  | "-lname" => some (.ok (.linkedTo word false))
  | "-ilname" => some (.ok (.linkedTo word true))
  | "-type" => some ((kindsIn name word).map (.kind · false))
  | "-xtype" => some ((kindsIn name word).map (.kind · true))
  | "-size" =>
    let c := word.getLast?.getD ' '
    some (if c.isDigit then bound (.sized · 512)
      else
        match findUnits.lookup c with
        | none => .error ("invalid -size type `".toList ++ c :: ['\''])
        | some unit =>
          match boundIn? word.dropLast with
          | some b => .ok (.sized b unit)
          | none => .error ("Invalid argument `".toList ++ word ++ "' to -size".toList))
  | "-perm" => some (modeTestIn word)
  | "-newer" | "-anewer" | "-cnewer" => some ((timeAt word).map fun x => .newer x.2)
  | "-samefile" => some ((timeAt word).map fun x => .same x.1)
  | "-mtime" | "-ctime" | "-atime" => some (bound (.aged · day))
  | "-mmin" | "-cmin" | "-amin" => some (bound (.aged · minute))
  | "-links" => some (bound .linked)
  | "-uid" | "-gid" => some (bound fun b => .truth (b.allows 0))
  | "-user" | "-group" =>
    some (if word = "root".toList || word = ['0'] then .ok (.truth true)
      else if word.all Char.isDigit then .ok (.truth false)
      else .error (inCurlyQuotes word ++ (if name = "-user".toList then
          " is not the name of a known user" else " is not the name of an existing group").toList))
  | "-printf" => some (.ok (.printAs word))
  | _ => none

/-- May the word not be a name of a place to start from, when `leading` says that no predicate has come
before it? -/
def isFindWord (leading : Bool) (word : Text) : Bool :=
  match word with
  | '-' :: _ :: _ => true
  | [')'] | [','] => !leading
  | ['('] | ['!'] => true
  | _ => false

/-- The names whose word is a pattern. -/
def patternNames : List Text :=
  ["-name", "-iname", "-path", "-ipath", "-wholename", "-iwholename", "-lname", "-ilname", "-regex",
    "-iregex"].map String.toList

/-- Read the words of predicates; what is wrong with them comes with a line more in some cases. -/
def readFindWords (s : Shell) : (fuel : Nat) → Wish → (last : Text) → List Text →
    Except (List Text) (List FindWord × Wish)
  | 0, w, _, _ => .ok ([], w)
  | _, w, _, [] => .ok ([], w)
  | fuel + 1, w, last, name :: rest => do
    let goOn := fun (found : List FindWord) (w : Wish) (rest : List Text) => do
      let (more, w) ← readFindWords s fuel w name rest
      return (found ++ more, w)
    let fail := fun {α : Type} (said : Text) => (.error [said] : Except (List Text) α)
    let lift := fun {α : Type} (found : Except Text α) =>
      (match found with | .ok a => .ok a | .error said => fail said : Except (List Text) α)
    let missing := "missing argument to `".toList ++ name ++ ['\'']
    if !isFindWord false name then
      let said := "paths must precede expression: `".toList ++ name ++ ['\'']
      if last ∈ patternNames && s.files.holds (path name) then
        .error [said, "possible unquoted pattern after predicate `".toList ++ last ++ "'?".toList]
      else fail said
    else
      let signs := ["(", ")", "!", "-not", "-a", "-and", "-o", "-or", ","].map String.toList
      if name ∈ signs then goOn [.sign name] w rest
      else
        match w.add? name, Predicate.plain? name with
        | some w, _ => goOn [.leaf (.truth true)] w rest
        | none, some p =>
          goOn [.leaf p] (match p with | .delete => { w with inward := true } | _ => w) rest
        | none, none =>
          if name = "-exec".toList || name = "-execdir".toList then
            match rest with
            | [] => fail missing
            | rest => do
              let (p, rest) ← lift
                (readCommand name (name = "-execdir".toList) rest.length rest)
              goOn [.leaf p] w rest
          else
            match rest with
            | [] =>
              -- the name of a predicate that lacks its word
              let takes := (Predicate.withWord? s w name ['0']).isSome
                || name ∈ ["-maxdepth", "-mindepth", "-regextype"].map String.toList
              fail (if takes then missing
                else "unknown predicate `".toList ++ name ++ ['\''])
            | word :: rest =>
              match String.ofList name with
              | "-maxdepth" => do
                let n ← lift (levelsIn name word)
                goOn [.leaf (.truth true)] { w with most := some n } rest
              | "-mindepth" => do
                let n ← lift (levelsIn name word)
                goOn [.leaf (.truth true)] { w with least := n } rest
              | "-regextype" => goOn [.leaf (.truth true)] { w with dialect := word } rest
              | _ =>
                match Predicate.withWord? s w name word with
                | some found => do
                  let p ← lift found
                  goOn [.leaf p] w rest
                | none => fail ("unknown predicate `".toList ++ name ++ ['\''])

/-! ### Operators -/

/-- A fault of operators and parentheses. -/
def expressionFault (said : Text) : Text := "invalid expression; ".toList ++ said

/-- Is it a sign with one of these texts? -/
def FindWord.isSign (texts : List String) : FindWord → Bool
  | .sign text => texts.any (·.toList = text)
  | .leaf _ => false

mutual

/-- One predicate, with what stands in front of it; `sign` is what was read last. -/
def readOne (sign : Text) : (fuel : Nat) → List FindWord → Except Text (Predicate × List FindWord)
  | 0, _ => .error (expressionFault [])
  | fuel + 1, words =>
    match words with
    | [] => .error ("expected an expression after '".toList ++ sign ++ ['\''])
    | .leaf p :: rest => .ok (p, rest)
    | .sign text :: rest =>
      if text = ['!'] || text = "-not".toList then do
        let (p, rest) ← readOne text fuel rest
        return (.not p, rest)
      else if text = ['('] then
        match rest with
        | .sign [')'] :: _ => .error (expressionFault "empty parentheses are not allowed.".toList)
        | rest => do
          let (p, rest) ← readAny text fuel rest
          match rest with
          | .sign [')'] :: rest => return (p, rest)
          | _ =>
            .error (expressionFault
              "I was expecting to find a ')' somewhere but did not see one.".toList)
      else if text = [')'] then
        if sign.isEmpty then .error (expressionFault "you have too many ')'".toList)
        else .error ("expected an expression between '".toList ++ sign ++ "' and ')'".toList)
      else
        .error (expressionFault ("you have used a binary operator '".toList ++ text
          ++ "' with nothing before it.".toList))

/-- Predicates that all hold. -/
def readAll (sign : Text) : (fuel : Nat) → List FindWord → Except Text (Predicate × List FindWord)
  | 0, _ => .error (expressionFault [])
  | fuel + 1, words => do
    let (p, rest) ← readOne sign fuel words
    match rest with
    | [] => return (p, rest)
    | word :: after =>
      if word.isSign [")", "-o", "-or", ","] then return (p, rest)
      else if word.isSign ["-a", "-and"] then
        let (q, rest) ← readAll (match word with | .sign text => text | _ => []) fuel after
        return (.and p q, rest)
      else
        let (q, rest) ← readAll [] fuel rest
        return (.and p q, rest)

/-- Predicates of which one holds. -/
def readEither (sign : Text) : (fuel : Nat) → List FindWord →
    Except Text (Predicate × List FindWord)
  | 0, _ => .error (expressionFault [])
  | fuel + 1, words => do
    let (p, rest) ← readAll sign fuel words
    match rest with
    | .sign text :: after =>
      if text = "-o".toList || text = "-or".toList then
        let (q, rest) ← readEither text fuel after
        return (.or p q, rest)
      else return (p, rest)
    | rest => return (p, rest)

/-- Predicates of which the last one counts. -/
def readAny (sign : Text) : (fuel : Nat) → List FindWord → Except Text (Predicate × List FindWord)
  | 0, _ => .error (expressionFault [])
  | fuel + 1, words => do
    let (p, rest) ← readEither sign fuel words
    match rest with
    | .sign [','] :: after =>
      let (q, rest) ← readAny [','] fuel after
      return (.after p q, rest)
    | rest => return (p, rest)

end

/-- The predicate that words tell; files are printed if nothing else is done with them. -/
def readPredicates (words : List FindWord) : Except Text Predicate :=
  if words.isEmpty then .ok (.print '\n')
  else
    match readAny [] (4 * words.length + 8) words with
    | .error said => .error said
    | .ok (p, []) =>
      let acts := words.any fun word =>
        match word with
        | .leaf p => p.acts
        | .sign _ => false
      .ok (if acts then p else .and p (.print '\n'))
    | .ok (_, _ :: _) => .error "you have too many ')'".toList

end Utility

end NameTables.Script
