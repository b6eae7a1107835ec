import NameTables.Script.Condition
import NameTables.Script.Declaration
import NameTables.Script.Format
import NameTables.Script.Handling
import NameTables.Script.Listing

/-!
# Commands of the shell itself

The commands that a shell carries out without starting anything.  What goes wrong with one that
decides about the shell ends it; of any other the shell only gets the status.

## Main definitions

* `Shell.builtin?` — what each command does with its arguments.
-/

namespace NameTables.Script

namespace Shell

/-- Do something with the number that an argument tells, which has to have no sign. -/
def withNumber (s : Shell) (word : Text) (act : Nat → Shell) : Shell :=
  match numberIn? true word with
  | some (.ofNat n) =>
    if n < Nat.pow 2 31 then act n else s.abort ("Illegal number: ".toList ++ word)
  | _ => s.abort ("Illegal number: ".toList ++ word)

/-- End the shell with a status: the present one, or the one from before what is done on a signal,
if none is told. -/
def exit (s : Shell) : List Text → Shell
  | [] => s.quit (s.statusBefore.getD s.status)
  | word :: _ => s.withNumber word s.quit

/-- Leave a function or a text. -/
def leaveFunction (s : Shell) : List Text → Shell
  | [] => { s with flow := .back }
  | word :: _ => s.withNumber word fun n => { s with status := n, flow := .back }

/-- Leave loops, or go on at the beginning of one. -/
def leaveLoops (s : Shell) (again : Bool) (args : List Text) : Shell :=
  let leave := fun (s : Shell) (n : Nat) =>
    let n := min n s.loops
    let s := s.withStatus 0
    if n = 0 then s else { s with flow := if again then .again (n - 1) else .leave n }
  match args with
  | [] => leave s 1
  | word :: _ =>
    s.withNumber word fun n =>
      if n = 0 then s.abort ("Illegal number: ".toList ++ word) else leave s n

/-- Drop arguments from the front. -/
def shift (s : Shell) (args : List Text) : Shell :=
  let drop := fun n : Nat =>
    if n ≤ s.args.length then (s.withArgs (s.args.drop n)).withStatus 0
    else s.abort "can't shift that many".toList
  match args with
  | [] => drop 1
  | word :: _ => s.withNumber word drop

/-- Print a line. -/
def echo (s : Shell) (args : List Text) : Shell := (s.withStatus 0).tell (echoText args)

/-- Print by a format.  A fault in an argument does not keep the rest from being printed. -/
def printFormat (s : Shell) (args : List Text) : Shell :=
  match optionsIn [] [] args with
  | .error said => s.abort said
  | .ok (_, []) => s.abort "usage: printf format [arg ...]".toList
  | .ok (_, format :: args) =>
    let printed := formatText .plain format args
    let s := (printed.faults.foldl (fun s fault => s.complain fault.message) s).ofTest
      printed.faults.isEmpty
    let s := s.tell printed.text
    if printed.going = .broken then s.breakOff else s

/-- Decide a condition. -/
def test (s : Shell) (words : List Text) : Shell :=
  match s.condition words with
  | .ok b => s.ofTest b
  | .error said => s.abort said

/-- Decide a condition that stands between brackets. -/
def testBetweenBrackets (s : Shell) (words : List Text) : Shell :=
  match words.reverse with
  | [']'] :: rest => s.test rest.reverse
  | _ => s.abort "missing ]".toList

/-! ### Directories -/

/-- Is the last one of these options the one for paths without links? -/
def isPhysical (options : List (Char × Text)) : Bool :=
  (options.getLast?.map Prod.fst) = some 'P'

/-- Print the current directory. -/
def tellDirectory (s : Shell) (args : List Text) : Shell :=
  match optionsIn ['L', 'P'] [] args with
  | .error said => s.abort said
  | .ok (options, _) =>
    (s.withStatus 0).tell
      ((if isPhysical options then octets s.files.herePath.text else s.directory) ++ ['\n'])

/-- The path that one reaches from a directory, where `..` leads back by the path itself. -/
def pathFrom (directory target : Text) : Text :=
  let isAbsolute := target.head? = some '/'
  -- two slashes in front, and not more, are kept
  let lead : Text :=
    if !isAbsolute then if directory.take 2 = ['/', '/'] then ['/', '/'] else ['/']
    else if target.take 2 = ['/', '/'] && (target.drop 2).head? ≠ some '/' then ['/', '/']
    else ['/']
  let segments := fun p : Text => (splitAt (· = '/') p).filter (!·.isEmpty)
  let kept := (segments target).foldl (fun kept segment =>
    if segment = ['.'] then kept
    else if segment = ['.', '.'] then kept.dropLast
    else kept ++ [segment]) (if isAbsolute then [] else segments directory)
  lead ++ Text.join ['/'] kept

/-- Go to the directory at a path, if there is one. -/
def enterDirectory? (s : Shell) (physical : Bool) (target : Text) : Option Shell :=
  let p := if physical then target else pathFrom s.directory target
  match s.files.locate (path p) with
  | .error _ => none
  | .ok place =>
    if s.files.isDirectory place then
      let before := s.directory
      let s := { s with files := { s.files with here := place } }
      let s := { s with directory := if physical then octets s.files.herePath.text else p }
      let s := (s.setVariable "OLDPWD".toList before).setVariable "PWD".toList s.directory
      some { s with
        exported := "OLDPWD".toList :: "PWD".toList :: s.exported.filter fun name =>
          name ≠ "OLDPWD".toList ∧ name ≠ "PWD".toList }
    else none

/-- Does the path say itself where it starts? -/
def isFixedPath (target : Text) : Bool :=
  match target.takeWhile (· ≠ '/') with
  | [] => !target.isEmpty
  | first => first = ['.'] || first = ['.', '.']

/-- Change the current directory.  A hyphen stands for the one before, and a path that does not say
where it starts is looked for in some directories. -/
def changeDirectory (s : Shell) (args : List Text) : Shell :=
  match optionsIn ['L', 'P'] [] args with
  | .error said => s.abort said
  | .ok (options, words) =>
    let s := s.withStatus 0
    let valueOf := fun name : String => (s.bindings.get? name.toList).getD []
    let (target, isOld) :=
      match words with
      | [] => (valueOf "HOME", false)
      | ['-'] :: _ => (valueOf "OLDPWD", true)
      | target :: _ => (target, false)
    let searched :=
      if isFixedPath target then [([], target)]
      else
        let target := if target.isEmpty then ['.'] else target
        (splitAt (· = ':') (valueOf "CDPATH")).map fun dir =>
          (dir, if dir.isEmpty then target else dir ++ '/' :: target)
    -- behind the directories the current one counts too
    let searched := searched ++ [([], if target.isEmpty then ['.'] else target)]
    let enter := s.enterDirectory? (isPhysical options)
    match searched.findSome? fun (dir, p) => (enter p).map (dir, ·) with
    | none => s.abort ("can't cd to ".toList ++ target)
    | some (dir, s) =>
      if isOld || !dir.isEmpty then s.tellDirectory [] else s

/-! ### Limits and permissions -/

/-- The letters of the permissions in one octal digit. -/
def permissionLetters (n : Nat) : Text :=
  (if n / 4 % 2 = 1 then ['r'] else []) ++ (if n / 2 % 2 = 1 then ['w'] else [])
    ++ if n % 2 = 1 then ['x'] else []

/-- The permissions after a change to them that is written in letters. -/
def permissionsAfter? (granted : Nat) (change : Text) : Option Nat :=
  let who := change.takeWhile fun c => c ∈ ['u', 'g', 'o', 'a']
  let places :=
    if who.isEmpty || 'a' ∈ who then [64, 8, 1]
    else (if 'u' ∈ who then [64] else []) ++ (if 'g' ∈ who then [8] else [])
      ++ if 'o' ∈ who then [1] else []
  match change.drop who.length with
  | sign :: letters =>
    if sign ∉ ['=', '+', '-'] || letters.any (· ∉ ['r', 'w', 'x']) then none
    else
      let bits := (if 'r' ∈ letters then 4 else 0) + (if 'w' ∈ letters then 2 else 0)
        + if 'x' ∈ letters then 1 else 0
      some (places.foldl (fun granted place =>
        let old := granted / place % 8
        let new := if sign = '=' then bits else if sign = '+' then old ||| bits
          else old - (old &&& bits)
        granted - old * place + new * place) granted)
  | [] => none

/-- Set or print the permissions that new files do not get. -/
def setMask (s : Shell) (args : List Text) : Shell :=
  match optionsIn ['S'] [] args with
  | .error said => s.abort said
  | .ok (options, words) =>
    let s := s.withStatus 0
    match words with
    | [] =>
      let granted := 0o777 - s.mask
      if isGiven 'S' options then
        s.tell ("u=".toList ++ permissionLetters (granted / 64) ++ ",g=".toList
          ++ permissionLetters (granted / 8) ++ ",o=".toList ++ permissionLetters granted ++ ['\n'])
      else
        let digits := Nat.toDigits 8 s.mask
        s.tell (List.replicate (4 - digits.length) '0' ++ digits ++ ['\n'])
    | word :: _ =>
      if (word.head?.map Char.isDigit).getD false then
        match digitsValue? 8 word with
        | some n => if n ≤ 0o777 then { s with mask := n }
          else s.abort ("Illegal number: ".toList ++ word)
        | none => s.abort ("Illegal number: ".toList ++ word)
      else
        let granted := (splitAt (· = ',') word).foldl (fun granted change =>
          granted.bind (permissionsAfter? · change)) (some (0o777 - s.mask))
        match granted with
        | some granted => { s with mask := 0o777 - granted }
        | none => s.abort ("Illegal mode: ".toList ++ word)

/-- Print limits, of which there are none. -/
def tellLimits (s : Shell) (args : List Text) : Shell :=
  match optionsIn "HSatfdscmlpnvwr".toList [] args with
  | .error said => s.abort said
  | .ok (_, []) => (s.withStatus 0).tell "unlimited\n".toList
  | .ok _ => s.withStatus 0

/-! ### Names -/

/-- Tell what names stand for. -/
def tellMeanings (s : Shell) (names : List Text) : Shell :=
  let (text, s) := names.foldl (fun (text, s) name =>
    let (more, found) := s.meaningText false name
    (text ++ more, (if found then s else s.withStatus 127).withMeaning name)) ([], s.withStatus 0)
  s.tell text

/-- Keep the paths of programs in mind, or print those that are. -/
def hash (s : Shell) (args : List Text) : Shell :=
  match optionsIn ['r'] [] args with
  | .error said => s.abort said
  | .ok (options, names) =>
    let s := s.withStatus 0
    if isGiven 'r' options then { s with known := [] }
    else if names.isEmpty then s.tell (s.known.flatMap fun entry => entry.2 ++ ['\n'])
    else
      names.foldl (fun s name =>
        if isBuiltin name || '/' ∈ name then s
        else
          match s.programPath? name with
          | .ok p => s.remember name p
          | .error _ => (s.complain (name ++ ": not found".toList)).withStatus 1) s

/-- What a command of the shell does with its arguments. -/
def builtin? (name : Text) : Option (List Text → Shell → Shell) :=
  match String.ofList name with
  | ":" | "true" => some fun _ s => s.withStatus 0
  | "false" => some fun _ s => s.withStatus 1
  | "echo" => some fun args s => s.echo args
  | "printf" => some fun args s => s.printFormat args
  | "test" => some fun args s => s.test args
  | "[" => some fun args s => s.testBetweenBrackets args
  | "exit" => some fun args s => s.exit args
  | "return" => some fun args s => s.leaveFunction args
  | "break" => some fun args s => s.leaveLoops false args
  | "continue" => some fun args s => s.leaveLoops true args
  | "shift" => some fun args s => s.shift args
  | "set" => some fun args s => s.set args
  | "export" => some fun args s => s.exportNames args
  | "readonly" => some fun args s => s.fixNames args
  | "local" => some fun args s => s.localNames args
  | "unset" => some fun args s => s.unsetNames args
  | "getopts" => some fun args s => s.nextOption args
  | "cd" | "chdir" => some fun args s => s.changeDirectory args
  | "pwd" => some fun args s => s.tellDirectory args
  | "trap" => some fun args s => s.setTraps args
  | "kill" => some fun args s => s.send args
  | "umask" => some fun args s => s.setMask args
  | "ulimit" => some fun args s => s.tellLimits args
  | "times" => some fun _ s =>
    (s.withStatus 0).tell "0m0.000000s 0m0.000000s\n0m0.000000s 0m0.000000s\n".toList
  | "type" => some fun names s => s.tellMeanings names
  | "hash" => some fun args s => s.hash args
  | "alias" => some fun args s => s.setAliases args
  | "unalias" => some fun args s => s.dropAliases args
  | "jobs" => some fun args s => s.tellJobs args
  | "fg" | "bg" => some fun _ s => s.abort "No current job".toList
  | _ => none

end Shell

end NameTables.Script
