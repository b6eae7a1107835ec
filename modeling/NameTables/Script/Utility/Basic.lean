import NameTables.Script.Options
import NameTables.Script.Stream
import NameTables.Script.Utility.Symbols

/-!
# Programs of an ordinary system

What the small programs that scripts use have in common: how they are told what to do, how they
report, and how they get at what files hold.

## Main definitions

* `Utility` — what a program does in a shell that is its own.
* `Usage`, `Usage.arguments` — how options and other arguments are told apart.
* `Shell.say`, `Run.print` — messages and output.
* `Run.withInput`, `Run.contentOf` — files that are read.
-/

namespace NameTables.Script

/-- A program, as what it does with its arguments in a shell of its own. -/
abbrev Utility := List Text → Run Unit

/-! ### Messages and output -/

namespace Shell

/-- Print a message in the name of the program. -/
def say (s : Shell) (text : Text) : Shell :=
  s.write 2 (s.name ++ ": ".toList ++ text ++ ['\n'])

/-- Print a message, and fail with a status. -/
def failWith (s : Shell) (status : Nat) (text : Text) : Shell := (s.say text).withStatus status

/-- Print a message, and fail. -/
def fail (s : Shell) (text : Text) : Shell := s.failWith 1 text

/-- The place where more is told about the use of the program. -/
def hint (s : Shell) : Shell :=
  s.write 2 ("Try '".toList ++ s.name ++ " --help' for more information.\n".toList)

/-- Refuse to do anything with the arguments. -/
def misuseWith (s : Shell) (status : Nat) (text : Text) : Shell :=
  (s.say text).hint.withStatus status

/-- Refuse to do anything with the arguments. -/
def misuse (s : Shell) (text : Text) : Shell := s.misuseWith 1 text

end Shell

namespace Run

/-- Print a message in the name of the program. -/
def say (text : Text) : Run Unit := modify (·.say text)

/-- Print a message, and fail. -/
def fail (text : Text) : Run Unit := modify (·.fail text)

/-- Print text.  When it cannot be written, the program complains in these words, and ends with a
status. -/
def printAs (words : String) (status : Nat) (text : Text) : Run Unit := do
  if !text.isEmpty && (← goes) then
    match (← get).put 1 text with
    | (none, s) =>
      set s
      makeRoom
    | (some fault, s) =>
      set (if s.isOver then s
        else (s.failWith status (words.toList ++ ": ".toList ++ fault.reason)).quit status)

/-- Print text.  What cannot be written makes the program fail with a status. -/
def printOr (status : Nat) (text : Text) : Run Unit := printAs "write error" status text

/-- Print text.  What cannot be written makes the program fail. -/
def print (text : Text) : Run Unit := printOr 1 text

end Run

/-! ### Arguments -/

/-- How the arguments of a program are to be read. -/
structure Usage where
  /-- The letters of the options without a word. -/
  plain : String
  /-- The letters of those with one. -/
  taking : String
  /-- The long names of options. -/
  long : List (String × Char)

namespace Usage

/-- The long names that a name may be short for: itself, or all that begin with it. -/
def candidates (u : Usage) (name : Text) : List (String × Char) :=
  match u.long.filter (·.1.toList == name) with
  | [] => u.long.filter fun entry => Text.beginsWith name entry.1.toList
  | found => found

/-- The options among arguments, and the other arguments; or what is wrong.  With `leading`, options
only stand in front. -/
def splitFrom (u : Usage) (leading : Bool) :
    List Text → Except Text (List (Char × Text) × List Text)
  | [] => .ok ([], [])
  | word :: rest =>
    match word with
    | ['-', '-'] => .ok ([], rest)
    | '-' :: '-' :: name =>
      let given := name.takeWhile (· ≠ '=')
      let value := match name.dropWhile (· ≠ '=') with | [] => none | _ :: value => some value
      match u.candidates given with
      | [] => .error ("unrecognized option ".toList ++ inUprightQuotes ("--".toList ++ given))
      | (long, c) :: others =>
        if others.any (·.2 != c) then
          .error ("option ".toList ++ inUprightQuotes word ++ " is ambiguous; possibilities:".toList
            ++ ((long, c) :: others).flatMap fun entry =>
              ' ' :: inUprightQuotes ("--".toList ++ entry.1.toList))
        else
          let named := inUprightQuotes ("--".toList ++ long.toList)
          match u.taking.toList.contains c, value, rest with
          | true, some value, rest => do
            let (options, operands) ← u.splitFrom leading rest
            return ((c, value) :: options, operands)
          | true, none, value :: rest => do
            let (options, operands) ← u.splitFrom leading rest
            return ((c, value) :: options, operands)
          | true, none, [] =>
            .error ("option ".toList ++ named ++ " requires an argument".toList)
          | false, some value, rest =>
            -- an upper case letter may have a value that it does not need
            if c.isUpper then do
              let (options, operands) ← u.splitFrom leading rest
              return ((c, value) :: options, operands)
            else .error ("option ".toList ++ named ++ " doesn't allow an argument".toList)
          | false, none, rest => do
            let (options, operands) ← u.splitFrom leading rest
            return ((c, []) :: options, operands)
    | '-' :: c :: more =>
      match lettersIn u.plain.toList u.taking.toList (c :: more), rest with
      | .error c, _ => .error ("invalid option -- ".toList ++ inUprightQuotes [c])
      | .ok (letters, none), rest => do
        let (options, operands) ← u.splitFrom leading rest
        return (letters ++ options, operands)
      | .ok (letters, some c), value :: rest => do
        let (options, operands) ← u.splitFrom leading rest
        return (letters ++ (c, value) :: options, operands)
      | .ok (_, some c), [] =>
        .error ("option requires an argument -- ".toList ++ inUprightQuotes [c])
    | _ =>
      if leading then .ok ([], word :: rest)
      else do
        let (options, operands) ← u.splitFrom leading rest
        return (options, word :: operands)

/-- The options among arguments, wherever they stand, and the other arguments; or what is wrong. -/
def split (u : Usage) (args : List Text) : Except Text (List (Char × Text) × List Text) :=
  u.splitFrom false args

/-- A program that does something with its options and its other arguments, and that has a status for
what it does not understand. -/
def programOr (u : Usage) (status : Nat) (act : List (Char × Text) → List Text → Run Unit) :
    Utility := fun args =>
  match u.split args with
  | .error said => modify (·.misuseWith status said)
  | .ok (options, operands) => act options operands

/-- A program that does something with its options and its other arguments. -/
def program (u : Usage) (act : List (Char × Text) → List Text → Run Unit) : Utility :=
  u.programOr 1 act

end Usage

/-- The number of the first meaning that a word has, or is short for, among the words for each; or
what is said of it. -/
def choiceOf (option : String) (choices : List (List String)) (word : Text) : Except Text Nat :=
  let fitting := fun fits : Text → Bool =>
    choices.zipIdx.filter fun (words, _) => words.any (fits ·.toList)
  let fail := fun lead : String =>
    let group := fun words : List String =>
      "\n  - ".toList ++ Text.join ", ".toList (words.map fun w => inCurlyQuotes w.toList)
    .error (lead.toList ++ " argument ".toList ++ inCurlyQuotes word ++ " for ".toList
      ++ inCurlyQuotes option.toList ++ "\nValid arguments are:".toList ++ choices.flatMap group)
  match fitting (· == word), fitting (Text.beginsWith word) with
  | (_, n) :: _, _ => .ok n
  | [], [(_, n)] => .ok n
  | [], [] => fail "invalid"
  | [], _ => fail "ambiguous"

/-- The word that belongs to an option, if it is given. -/
def wordOf? (letter : Char) (options : List (Char × Text)) : Option Text :=
  (options.filter (·.1 == letter)).getLast?.map Prod.snd

/-! ### Input -/

namespace Run

/-- Use what a name stands for, which is the input for a hyphen and else a file; or tell why that
cannot be done. -/
def withInput {α : Type} (name : Text) (use : (id : Nat) → Run α) : Run (Except IoFault α) := do
  let s ← get
  if name = ['-'] then
    match s.channel? 0 with
    | some id => return .ok (← use id)
    | none => return .error .badDescriptor
  else
    match s.openPath .reading name with
    | .error fault => return .error fault
    | .ok (id, s) =>
      let descriptor := s.freeDescriptor
      set (s.setChannel descriptor id)
      -- a pipe with a name is not there before somebody writes into it
      await fun s => s.isOver || s.toScene.isWritten id
      let a ← use id
      modify (·.close descriptor)
      return .ok a

/-- Use what names stand for one after another, the input if there are none, with what is wrong with
a name. -/
def withInputs (names : List Text) (use : Text → (id : Nat) → Run Unit)
    (refuse : Text → IoFault → Run Unit) : Run Unit := do
  for name in if names.isEmpty then [['-']] else names do
    if ← goes then
      match ← withInput name (use name) with
      | .ok () => pure ()
      | .error fault => refuse name fault

/-- Do something with all that can be read, piece by piece, as long as the program is at it; what has
been found out so far is handed on.  At the end, that is the result. -/
def eachPiece {σ : Type} (id : Nat) (start : σ) (step : σ → Text → Run σ) :
    Run (Except (IoFault × σ) σ) := do
  go readLimit start
where
  /-- The same, for so many pieces at most. -/
  go : (fuel : Nat) → σ → Run (Except (IoFault × σ) σ)
    | 0, found => return .ok found
    | fuel + 1, found => do
      match ← readFrom id readChunk readLimit with
      | .error fault => return .error (fault, found)
      | .ok [] => return .ok found
      | .ok text =>
        let found ← step found text
        if ← goes then go fuel found else return .ok found

/-- The lines of a text that have ended, each without its end, and what follows them. -/
def splitEndedLines (stop : Char) (s : Text) : List Text × Text :=
  match (splitAt (· = stop) s).reverse with
  | [] => ([], [])
  | last :: ended => (ended.reverse, last)

/-- Do something with all lines that can be read, some of them at a time, until there are no more or
the result so far is `final`; whether the last one has an end is told.  If reading fails, the result
so far comes with the reason. -/
def eachLines {σ : Type} (id : Nat) (stop : Char) (final : σ → Bool) (start : σ)
    (step : σ → (lines : List Text) → (ended : Bool) → Run σ) : Run (Except (IoFault × σ) σ) := do
  go readLimit start []
where
  /-- The same, for so many pieces at most, with what there is of a line. -/
  go : (fuel : Nat) → σ → (begun : Text) → Run (Except (IoFault × σ) σ)
    | 0, found, _ => return .ok found
    | fuel + 1, found, begun => do
      if final found || !(← goes) then return .ok found
      match ← readFrom id readChunk readLimit with
      | .error fault => return .error (fault, found)
      | .ok [] => if begun.isEmpty then return .ok found else return .ok (← step found [begun] false)
      | .ok text =>
        let (lines, begun) := splitEndedLines stop (begun ++ text)
        let found ← if lines.isEmpty then pure found else step found lines true
        go fuel found begun

/-- What a name stands for, the input or a file, holds. -/
def contentOf (name : Text) : Run (Except IoFault Text) := do
  match ← withInput name readAllFrom with
  | .ok found => return found
  | .error fault => return .error fault

/-- Do something for each value, as long as the program is at it. -/
def each {α : Type} (values : List α) (step : α → Run Unit) : Run Unit := do
  for a in values do
    if ← goes then step a

end Run

/-- The lines of a text, each without its end; whether the last one has one makes no difference. -/
def linesIn (s : Text) : List Text :=
  let lines := splitAt (· = '\n') s
  if lines.getLast? = some [] then lines.dropLast else lines

/-- The lines of a text, each with its end. -/
def linesOf (s : Text) : List Text :=
  s.foldr (fun c lines => if c = '\n' then [c] :: lines else consFirst c lines) []

end NameTables.Script
