import NameTables.Script.Expansion
import NameTables.Script.Reading

/-!
# What names stand for

A name at the beginning of a command may be a word of the shell's language, a command of the shell
itself, a function, or a program that is looked for in some directories.

## Main definitions

* `programPaths` — the paths at which a program may be.
* `Shell.programPath?` — the path at which it is.
* `Meaning`, `Shell.meaning?` — what a name stands for.
-/

namespace NameTables.Script

/-- The commands of the shell itself, apart from those that decide about it. -/
def ordinaryNames : List Text :=
  ["[".toList, "alias".toList, "bg".toList, "cd".toList, "chdir".toList, "command".toList,
    "echo".toList, "false".toList, "fg".toList, "getopts".toList, "hash".toList, "jobs".toList,
    "kill".toList, "printf".toList, "pwd".toList, "read".toList, "test".toList, "true".toList,
    "type".toList, "ulimit".toList, "umask".toList, "unalias".toList, "wait".toList]

/-- Does the command decide about the shell itself?  Such a one ends it when it fails. -/
def isSpecial (name : Text) : Bool := name ∈ specialNames

/-- Is it a command of the shell itself? -/
def isBuiltin (name : Text) : Bool := isSpecial name || name ∈ ordinaryNames

/-- The paths at which a program may be: its own, or one in each directory of a search path. -/
def programPaths (search name : Text) : List Text :=
  if '/' ∈ name then [name]
  else (splitAt (· = ':') search).map fun dir => if dir.isEmpty then name else dir ++ '/' :: name

/-- A search path that finds the programs of an ordinary system. -/
def ordinarySearch : Text := "/usr/local/bin:/usr/bin:/bin".toList

namespace Shell

/-- The first of these paths that leads to a program.  One that leads to anything else is the reason
if there is none. -/
def firstProgram (s : Shell) : (fault : IoFault) → List Text → Except IoFault Text
  | fault, [] => .error fault
  | fault, p :: rest =>
    match s.files.nodeAt? (path p) with
    | some (.file number) =>
      if (s.files.state? number).any FileState.isExecutable then .ok p
      else s.firstProgram .denied rest
    | some _ => s.firstProgram .denied rest
    | none => s.firstProgram fault rest

/-- The path of the program with a name that has no slash. -/
def programPath? (s : Shell) (name : Text) : Except IoFault Text :=
  match s.known.find? (·.1 == name) with
  | some (_, p) => .ok p
  | none =>
    match s.bindings.get? "PATH".toList with
    | some search => s.firstProgram .notFound (programPaths search name)
    | none => .error .notFound

/-- The shell that keeps the path of a program in mind. -/
def remember (s : Shell) (name p : Text) : Shell :=
  if s.known.any (·.1 == name) then s else { s with known := s.known ++ [(name, p)] }

end Shell

/-- A text between single quotes.  Single quotes in it stand between double ones. -/
def inQuoteMarks (s : Text) : Text := quoteFrom (s.length + 1) s
where
  /-- The text with the quotes around its parts. -/
  quoteFrom : (fuel : Nat) → Text → Text
    | 0, _ => []
    | fuel + 1, s =>
      let plain := '\'' :: s.takeWhile (· ≠ '\'') ++ ['\'']
      let rest := s.dropWhile (· ≠ '\'')
      let marks := rest.takeWhile (· = '\'')
      if marks.isEmpty then plain
      else
        let after := rest.drop marks.length
        plain ++ '\x22' :: marks ++ '\x22' :: if after.isEmpty then [] else quoteFrom fuel after

/-- The line that tells for which text a name stands. -/
def aliasText (name text : Text) : Text := name ++ '=' :: inQuoteMarks text ++ ['\n']

/-- What a name stands for. -/
inductive Meaning
  /-- A word of the language. -/
  | keyword
  /-- A text. -/
  | text (s : Text)
  /-- A function. -/
  | function (body : Command)
  /-- A command of the shell. -/
  | builtin
  /-- A program at a path, which the shell may have found before. -/
  | program (p : Text) (known : Bool)

/-- What a name stands for; with a slash in it, it is a path whatever is there. -/
def Shell.meaning? (s : Shell) (name : Text) : Option Meaning :=
  if name ∈ Token.keywords then some .keyword
  else if let some text := s.aliases.lookup name then some (.text text)
  else if '/' ∈ name then some (.program name false)
  else if isSpecial name then some .builtin
  else
    match s.functions.find? (·.1 == name) with
    | some (_, body) => some (.function body)
    | none =>
      if name ∈ ordinaryNames then some .builtin
      else
        match s.programPath? name with
        | .ok p => some (.program p (s.known.any (·.1 == name)))
        | .error _ => none

/-- The text that tells what a name stands for, in short or in words, and whether it stands for
anything. -/
def Shell.meaningText (s : Shell) (short : Bool) (name : Text) : Text × Bool :=
  let told := fun (text : Text) => ((if short then name else name ++ text) ++ ['\n'], true)
  match s.meaning? name with
  | none => (if short then [] else name ++ ": not found\n".toList, false)
  | some .keyword => told " is a shell keyword".toList
  | some (.text text) =>
    if short then ("alias ".toList ++ aliasText name text, true)
    else told (" is an alias for ".toList ++ text)
  | some (.function _) => told " is a shell function".toList
  | some .builtin =>
    told (if isSpecial name then " is a special shell builtin".toList
      else " is a shell builtin".toList)
  | some (.program p known) =>
    if '/' ∈ name && !s.files.holds (Shell.path p) then
      (if short then [] else name ++ ": not found\n".toList, false)
    else if short then (p ++ ['\n'], true)
    else if known then told (" is a tracked alias for ".toList ++ p)
    else told (" is ".toList ++ p)

/-- The shell that keeps in mind what a name stands for, if it is a program. -/
def Shell.withMeaning (s : Shell) (name : Text) : Shell :=
  match s.meaning? name with
  | some (.program p _) => if '/' ∈ name then s else s.remember name p
  | _ => s

end NameTables.Script
