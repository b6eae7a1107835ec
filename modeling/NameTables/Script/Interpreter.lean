import NameTables.Script.Lookup
import NameTables.Script.Process
import NameTables.Script.Utility.Names

/-!
# From files to programs

A file that may be carried out is a program of the system, or its first line tells which program
carries it out.

## Main definitions

* `programAt?` — the program of the system at a place.
* `interpreter?` — what the first line of a file tells.
* `startOf` — what is started for a path.
* `startFor` — what is started for a name.
* `Shell.bare`, `Shell.child` — what a program knows at its start.
* `Run.callProgram` — a program that is started by another one.
-/

namespace NameTables.Script

/-- The path of the shell. -/
def shellPath : Text := "/bin/sh".toList

/-- The directory of the programs of the system. -/
def programPlace : Place := ["bin".toList, "usr".toList]

/-- The program of the system at a place. -/
def programAt? (place : Place) : Option Text :=
  match place with
  | name :: dir => if dir = programPlace && name ∈ programNames then some name else none
  | [] => none

/-- How much of a file the system looks at. -/
def leadLength : Nat := 256

/-- The program that the first line of a file tells, with the one word that it may get: all that
follows on the line.  A line that is too long has to tell the program's name at least. -/
def interpreter? (content : Text) : Option (Text × List Text) :=
  match Text.dropLead? ['#', '!'] (content.take leadLength) with
  | none => none
  | some lead =>
    let isBlank := fun c : Char => c = ' ' || c = '\t'
    let line := (lead.takeWhile (· ≠ '\n')).dropWhile isBlank
    let name := line.takeWhile fun c => !isBlank c && c ≠ '\x00'
    let after := line.drop name.length
    let isCut := leadLength ≤ content.length && lead.all (· ≠ '\n')
    if name.isEmpty || (isCut && after.isEmpty) then none
    else if after.head? = some '\x00' then some (name, [])
    else
      let word := (after.dropWhile isBlank).takeWhile (· ≠ '\x00')
      let word := (word.reverse.dropWhile isBlank).reverse
      some (name, if word.isEmpty then [] else [word])

/-- How many files in a row may tell of each other which program carries them out. -/
def interpreterLimit : Nat := 5

/-- What a file is that may be carried out. -/
inductive Form
  /-- A program of the system. -/
  | program (name : Text)
  /-- A text for another program, which gets some words first. -/
  | text (interpreter : Text) (words : List Text)

/-- What the file at a path is.  The programs of the system are known by their places, not by their
content. -/
def formAt (fs : Files) (p : Text) : Except IoFault Form :=
  match fs.locate (Shell.path p) with
  | .error fault => .error fault
  | .ok place =>
    match fs.node? place, fs.fileAt? place with
    | none, _ => .error .notFound
    | some _, none => .error .denied
    | some _, some file =>
      if !file.isExecutable then .error .denied
      else
        match programAt? (place.map octets), interpreter? (ofBytes (file.content.take leadLength)) with
        | some x, _ => .ok (.program x)
        | none, some (interpreter, words) => .ok (.text interpreter words)
        | none, none => .error .notExecutable

/-- What is started for the file at a path, when so many files in a row may be texts. -/
def startAt (fs : Files) : (links : Nat) → (p name : Text) → List Text → Except IoFault Start
  | links, p, name, args =>
    match formAt fs p, links with
    | .error fault, _ => .error fault
    | .ok (.program x), _ => .ok ⟨x, name, args⟩
    | .ok (.text ..), 0 => .error .tooManyLinks
    | .ok (.text interpreter words), links + 1 =>
      startAt fs links interpreter interpreter (words ++ p :: args)

/-- What is started for a path. -/
def startOf (fs : Files) (p name : Text) (args : List Text) : Except IoFault Start :=
  startAt fs interpreterLimit p name args

/-- Does a file that is no program begin like a text?  There is no unusual character on its first
line. -/
def beginsAsText (content : Text) : Bool :=
  ((content.take leadLength).takeWhile (· ≠ '\n')).all fun c =>
    c ≠ '\x7f' && (' ' ≤ c || ('\t' ≤ c && c ≤ '\x0e') || c = '\x1b')

/-- What is started for a path if files that are no programs are carried out by the shell when they
are taken for texts. -/
def startOrText (fs : Files) (isText : Text → Bool) (p name : Text) (args : List Text) :
    Except IoFault Start :=
  match startOf fs p name args, (fs.read (Shell.path p)).toOption with
  | .error .notExecutable, some content =>
    if isText (ofBytes (content.take leadLength)) then .ok ⟨"sh".toList, shellPath, p :: args⟩
    else .error .notExecutable
  | found, _ => found

/-- The first of some paths that something can be started for; one that may not be carried out is
passed over, and then it is the reason if there is no other. -/
def firstStart (start : Text → Except IoFault Start) :
    (fault : IoFault) → List Text → Except IoFault Start
  | fault, [] => .error fault
  | fault, p :: rest =>
    match start p with
    | .ok found => .ok found
    | .error .notFound => firstStart start fault rest
    | .error .notDirectory => firstStart start fault rest
    | .error .denied => firstStart start .denied rest
    | .error fault => .error fault

/-- What is started for a name, which is looked for in the directories of a search path unless there
is a slash in it. -/
def startFor (start : Text → Except IoFault Start) (search name : Text) :
    Except IoFault Start :=
  if '/' ∈ name then start name
  else if name.isEmpty then .error .notFound
  else firstStart start .notFound (programPaths search name)

/-! ### Starting programs -/

namespace Shell

/-- What a program knows that takes the place of the shell: what is shared, its descriptors and the
time, and the variables that are exported.  Signals that are passed over stay so. -/
def bare (s : Shell) : Shell :=
  { s with
    root := s.number
    speaker := none
    line := 1
    lineRead := 1
    args := []
    status := 0
    bindings := List.filter (fun v => v.1 ∈ s.exported) s.bindings
    fixed := []
    functions := []
    aliases := []
    known := []
    locals := none
    options := []
    optionAt := (1, 0)
    guarded := 0
    alone := false
    calls := 0
    loops := 0
    frames := []
    jobs := []
    lastJob := none
    noticed := []
    traps := s.traps.filter (·.2.isEmpty)
    pending := []
    statusBefore := none
    substituted := false }

/-- What a program knows that is a process of its own. -/
def child (s : Shell) : Shell := { s with parent := s.starter }.bare

end Shell

/-- How a program ends. -/
inductive Ending
  /-- With a status. -/
  | exited (status : Nat)
  /-- By a signal. -/
  | killed (signal : Nat)

/-- Start a program by its name, as programs do, in a shell that is made from this one, and tell its
number; or tell why it cannot be started. -/
def Run.startProgram (prepare : Shell → Shell) (name : Text) (args : List Text) :
    Run (Except IoFault Nat) := do
  Run.pass Shell.startTime
  let s ← get
  let search := (s.bindings.get? "PATH".toList).getD ordinarySearch
  match startFor (fun p => startOrText s.files (fun _ => true) p name args) search name with
  | .error fault => return .error fault
  | .ok start => return .ok (← Run.begin (.program start) (fun s => (prepare s).child) 0)

/-- How a program with a number has ended. -/
def Shell.endingOf (s : Shell) (number : Nat) : Ending :=
  match s.killed.lookup number with
  | some signal => .killed signal
  | none => .exited ((s.ended.lookup number).getD 0)

/-- Start a program by its name, and wait for it; or tell why it cannot be started. -/
def Run.callProgram (prepare : Shell → Shell) (name : Text) (args : List Text) :
    Run (Except IoFault Ending) := do
  match ← Run.startProgram prepare name args with
  | .error fault => return .error fault
  | .ok number =>
    Run.awaitEnd number
    Run.pass Shell.wakeTime
    return .ok ((← get).endingOf number)

end NameTables.Script
