import NameTables.Script.Number
import NameTables.Script.Scene
import NameTables.Script.Signal

/-!
# Shells

The state of a shell that carries out a script: its variables and arguments, where its descriptors
lead, and how much time has passed.  Time is counted in steps of a fixed length, so a script that
does not end runs out of time after a number of steps that is known beforehand.

## Main definitions

* `Flow` — whether commands are still carried out.
* `Shell` — the state.
* `Shell.put`, `Shell.openPath`, `Shell.redirect` — what is done with descriptors.
-/

namespace NameTables.Script

/-- How a shell goes on. -/
inductive Flow
  /-- With the next command. -/
  | go
  /-- Behind so many loops. -/
  | leave (loops : Nat)
  /-- At the beginning of a loop, after it has left so many. -/
  | again (loops : Nat)
  /-- Behind the call of a function. -/
  | back
  /-- Not at all: it has ended. -/
  | quit
  /-- Not at all, unless what has gone wrong is of no concern outside the present command. -/
  | broken
  /-- Not at all: a signal has ended it. -/
  | killed (signal : Nat)
  /-- Not at all: its time is over. -/
  | late
  deriving DecidableEq, Repr

/-- A process in the background, or some of which each reads what the one before writes. -/
structure Job where
  /-- Its place among the others, from one on. -/
  place : Nat
  /-- Its number, or that of the last one. -/
  number : Nat
  /-- The numbers of those before it. -/
  earlier : List Nat
  /-- Has the shell waited for its end? -/
  awaited : Bool

/-- A shell. -/
structure Shell extends Scene where
  /-- The number of its process. -/
  number : Nat
  /-- The number of the process that began it, which it gives as its own. -/
  root : Nat
  /-- The number of the process that started that one. -/
  parent : Nat
  /-- The number of the process that started this one. -/
  starter : Nat
  /-- The time when the machine started, in nanoseconds. -/
  epoch : Int
  /-- The time that has passed since, in nanoseconds. -/
  clock : Nat
  /-- The time there is. -/
  limit : Nat
  /-- The time up to which no other process has anything to do. -/
  horizon : Option Nat
  /-- How it goes on. -/
  flow : Flow
  /-- The name the shell was called by. -/
  name : Text
  /-- The command of the shell that messages come from. -/
  speaker : Option Text
  /-- The line of the command that is carried out. -/
  line : Nat
  /-- The line that reading has come to. -/
  lineRead : Nat
  /-- The path by which the current directory was reached. -/
  directory : Text
  /-- The arguments. -/
  args : List Text
  /-- The status of the last command. -/
  status : Nat
  /-- The variables. -/
  bindings : Variables
  /-- The names of the variables that programs get. -/
  exported : List Text
  /-- The names of the variables that keep their values. -/
  fixed : List Text
  /-- The functions. -/
  functions : List (Text × Command)
  /-- The words that stand for others at the beginning of a command, with those. -/
  aliases : List (Text × Text)
  /-- The programs that have been found, with their paths. -/
  known : List (Text × Text)
  /-- The variables that belong to the function called last, with the values they had before; none
  outside of functions. -/
  locals : Option (List (Text × Option Text))
  /-- The letters of the options that are set. -/
  options : List Char
  /-- The number of the argument that is looked at for options next, and of the letter in it. -/
  optionAt : Nat × Nat
  /-- The permissions that new files do not get. -/
  mask : Nat
  /-- The number of conditions the shell is in, where a failure does not end it. -/
  guarded : Nat
  /-- Is the process there for nothing but the present command? -/
  alone : Bool
  /-- The number of functions the shell is in. -/
  calls : Nat
  /-- The number of loops the shell is in. -/
  loops : Nat
  /-- The descriptors, with the numbers of what they lead to. -/
  channels : List (Nat × Nat)
  /-- The descriptors as they were before redirections that are in force, the last ones first. -/
  frames : List (List (Nat × Nat))
  /-- The processes it has started in the background, the last one first. -/
  jobs : List Job
  /-- The number of the one that was started last. -/
  lastJob : Option Nat
  /-- The numbers of those that the shell has noticed the end of. -/
  noticed : List Nat
  /-- What is to be done on signals. -/
  traps : List (Nat × Text)
  /-- The signals that something is to be done on. -/
  pending : List Nat
  /-- The status from before what is being done on a signal. -/
  statusBefore : Option Nat
  /-- Has the output of a command been taken since this was last set back? -/
  substituted : Bool

namespace Shell

/-- The time a built-in command takes. -/
def stepTime : Nat := 2000

/-- The time it takes to start a program. -/
def startTime : Nat := 1000000

/-- The time it takes to start a process that is a shell too. -/
def forkTime : Nat := 100000

/-- How long it takes to read from a device that never ends. -/
def deviceTime : Nat := 4000000

/-- The time from then on until a process takes its first step, or until its end is noticed. -/
def wakeTime : Nat := 200000

/-- Does the shell go on with the next command? -/
def goes (s : Shell) : Bool := s.flow = .go

/-- The shell after time has passed. -/
def after (s : Shell) (time : Nat) : Shell :=
  let clock := s.clock + time
  let s := { s with clock, files := { s.files with now := s.epoch + clock } }
  if s.limit < clock then { s with flow := .late } else s

/-- The shell with another status. -/
def withStatus (s : Shell) (status : Nat) : Shell := { s with status }

/-- The status of a truth value. -/
def ofTest (s : Shell) (b : Bool) : Shell := s.withStatus (if b then 0 else 1)

/-- Is the option set? -/
def has (s : Shell) (option : Char) : Bool := option ∈ s.options

/-- End the shell. -/
def quit (s : Shell) (status : Nat) : Shell := { s with status := status % 256, flow := .quit }

/-- End the shell because of something that has gone wrong. -/
def breakOff (s : Shell) : Shell := { s with status := 2, flow := .broken }

/-! ### Signals -/

/-- Has the shell been told to pass over the signal? -/
def passesOver (s : Shell) (signal : Nat) : Bool :=
  (s.traps.find? (·.1 == signal)).any (·.2.isEmpty)

/-- Is the shell ended for good? -/
def isOver (s : Shell) : Bool :=
  match s.flow with
  | .killed _ | .late => true
  | _ => false

/-- The shell after the signals that were sent to it have come.  One that something is to be done on
is kept in mind; any other one ends the shell, unless it does no harm. -/
def receive (s : Shell) : Shell :=
  let mine := s.sent.filter (·.1 == s.number)
  if mine.isEmpty then s
  else
    let s := { s with sent := s.sent.filter (·.1 != s.number) }
    mine.foldl (fun s (_, signal) =>
      if s.isOver then s
      else
        match (s.traps.find? (·.1 == signal)).map Prod.snd, decide (signal = killSignal) with
        | some [], false => s
        | some _, false =>
          if signal ∈ s.pending then s else { s with pending := s.pending ++ [signal] }
        | none, false =>
          if isHarmless signal || stopsOnly signal then s
          else { s with flow := .killed signal }
        | _, true => { s with flow := .killed signal }) s

/-! ### Descriptors -/

/-- The number of what a descriptor leads to. -/
def channel? (s : Shell) (descriptor : Nat) : Option Nat := s.channels.lookup descriptor

/-- What a descriptor leads to. -/
def openedAt? (s : Shell) (descriptor : Nat) : Option Opened :=
  (s.channel? descriptor).bind s.toScene.opened?

/-- All that the shell holds open. -/
def held (s : Shell) : List Nat :=
  s.channels.map Prod.snd ++ s.frames.flatMap fun channels => channels.map Prod.snd

/-- The shell after others have learned what it holds open. -/
def publish (s : Shell) : Shell := { s with toScene := s.toScene.hold s.number s.held }

/-- The shell with a descriptor leading elsewhere. -/
def setChannel (s : Shell) (descriptor id : Nat) : Shell :=
  { s with channels := (descriptor, id) :: s.channels.filter (·.1 != descriptor) }.publish

/-- The shell with a descriptor closed. -/
def close (s : Shell) (descriptor : Nat) : Shell :=
  { s with channels := s.channels.filter (·.1 != descriptor) }.publish

/-- A descriptor that leads nowhere yet. -/
def freeDescriptor (s : Shell) : Nat :=
  ((List.range (s.channels.length + 4)).find? fun d =>
    3 ≤ d && !s.channels.any (·.1 == d)).getD 3

/-- The shell whose descriptors will be as they are now after some redirections. -/
def pushFrame (s : Shell) : Shell := { s with frames := s.channels :: s.frames }

/-- The shell with its descriptors as they were before the last redirections. -/
def popFrame (s : Shell) : Shell :=
  match s.frames with
  | channels :: frames => { s with channels, frames }.publish
  | [] => s

/-- The shell for which the last redirections stay in force. -/
def dropFrame (s : Shell) : Shell := { s with frames := s.frames.tail }.publish

/-- Write to a descriptor; there may be a reason that this cannot be done.  When nobody reads what is
written, a signal comes. -/
def put (s : Shell) (descriptor : Nat) (text : Text) : Option IoFault × Shell :=
  match s.channel? descriptor with
  | none => (some .badDescriptor, s)
  | some id =>
    match s.toScene.accept id text with
    | (some .brokenPipe, scene) =>
      (some .brokenPipe,
        { s with toScene := { scene with sent := scene.sent ++ [(s.number, pipeSignal)] } }.receive)
    | (fault, scene) => (fault, { s with toScene := scene })

/-- Write to a descriptor, whether that succeeds or not. -/
def write (s : Shell) (descriptor : Nat) (text : Text) : Shell := (s.put descriptor text).2

/-! ### Messages -/

/-- Print a message about what goes wrong on a line. -/
def complainAt (s : Shell) (line : Nat) (message : Text) : Shell :=
  let speaker := (s.speaker.map (· ++ ": ".toList)).getD []
  s.write 2 (s.name ++ ": ".toList ++ Text.ofNat line ++ ": ".toList ++ speaker ++ message
    ++ ['\n'])

/-- Print a message about what goes wrong. -/
def complain (s : Shell) (message : Text) : Shell := s.complainAt s.line message

/-- End the shell because of something that goes wrong. -/
def abort (s : Shell) (message : Text) : Shell := (s.complain message).breakOff

/-! ### Variables -/

/-- The names of the options, in the order in which they are listed, with their letters; two have
none. -/
def optionNames : List (Option Char × String) :=
  [(some 'e', "errexit"), (some 'f', "noglob"), (some 'I', "ignoreeof"), (some 'i', "interactive"),
    (some 'm', "monitor"), (some 'n', "noexec"), (some 's', "stdin"), (some 'x', "xtrace"),
    (some 'v', "verbose"), (some 'V', "vi"), (some 'E', "emacs"), (some 'C', "noclobber"),
    (some 'a', "allexport"), (some 'b', "notify"), (some 'u', "nounset"), (some 'p', "privileged"),
    (none, "nolog"), (none, "debug")]

/-- The letters of the options, the last one first. -/
def optionLetters : List Char := (optionNames.filterMap Prod.fst).reverse

/-- The value of a variable, an argument or a state. -/
def value? (s : Shell) (name : Text) : Option Text :=
  match name with
  | ['#'] => some (Text.ofNat s.args.length)
  | ['?'] => some (Text.ofNat s.status)
  | ['$'] => some (Text.ofNat s.root)
  | ['!'] => s.lastJob.map Text.ofNat
  | ['-'] => some (optionLetters.filter (· ∈ s.options))
  | c :: _ =>
    if c.isDigit then
      match (digitsValue? 10 name).getD 0 with
      | 0 => some s.name
      | n + 1 => s.args[n]?
    else s.bindings.get? name
  | [] => none

/-- The shell with a new value for a variable, whatever else is known of it.  Some variables say how
the shell works. -/
def assign (s : Shell) (name value : Text) : Shell :=
  let s :=
    if name = "OPTIND".toList then { s with optionAt := ((digitsValue? 10 value).getD 1, 0) }
    else if name = "PATH".toList then { s with known := [] }
    else s
  { s with
    bindings := s.bindings.set name value
    exported := if s.has 'a' && name ∉ s.exported then name :: s.exported else s.exported }

/-- The shell with a new value for a variable; a fixed one cannot get any, which ends the shell. -/
def setVariable (s : Shell) (name value : Text) : Shell :=
  if name ∈ s.fixed then s.abort (name ++ ": is read only".toList) else s.assign name value

/-- The characters at which values are cut into words. -/
def separators (s : Shell) : Text := (s.bindings.get? "IFS".toList).getD [' ', '\t', '\n']

/-- The directories in which programs are looked for. -/
def search (s : Shell) : Text := (s.bindings.get? "PATH".toList).getD []

/-! ### Opening files -/

/-- The path that octets tell. -/
def path (text : Text) : Path := ⟨ofOctets text⟩

/-- The descriptor that a path stands for. -/
def standardPath? (name : Text) : Option Nat :=
  if name = "/dev/stdin".toList then some 0
  else if name = "/dev/stdout".toList then some 1
  else if name = "/dev/stderr".toList then some 2
  else
    match Text.dropLead? "/dev/fd/".toList name, Text.dropLead? "/proc/self/fd/".toList name with
    | some digits, _ => digitsValue? 10 digits
    | none, some digits => digitsValue? 10 digits
    | none, none => none

/-- What a file is opened for. -/
inductive Purpose
  /-- To be read. -/
  | reading
  /-- To be written anew. -/
  | writing
  /-- To be written at its end. -/
  | appending
  /-- To be read and written as it is. -/
  | both
  deriving DecidableEq, Repr

/-- A target as it is opened for a purpose. -/
def Purpose.opened (purpose : Purpose) (target : Target) : Opened :=
  match purpose with
  | .reading => .toRead target
  | .writing => .toWrite target false
  | .appending => .toWrite target true
  | .both => { Opened.toRead target with writes := true }

/-- Open a target for a purpose: its number, and the shell after that. -/
def openTarget (s : Shell) (purpose : Purpose) (target : Target) : Nat × Shell :=
  let s :=
    match purpose, target with
    | .writing, .file number =>
      if (s.files.content number).isEmpty then s
      else { s with files := s.files.setContent number [] }
    | _, _ => s
  let (id, scene) := s.toScene.add (purpose.opened target)
  (id, { s with toScene := scene })

/-- The permissions of a new file or directory that may have these at most. -/
def newMode (s : Shell) (mode : Nat) : Nat := mode - (mode &&& s.mask)

/-- Open what a path leads to: its number, and the shell after that.  A file that is missing is made,
unless it is to be read. -/
def openPath (s : Shell) (purpose : Purpose) (name : Text) : Except IoFault (Nat × Shell) :=
  match standardPath? name with
  | some descriptor =>
    match s.channel? descriptor, s.openedAt? descriptor with
    | some id, some o =>
      match o.target with
      | .file number => .ok (s.openTarget purpose (.file number))
      | _ => .ok (id, s)
    | _, _ => .error .notFound
  | none => do
    let p := path name
    let place ← if purpose = .reading then s.files.locate p else s.files.locateNew p
    match s.files.node? place with
    | some (.directory _) =>
      if purpose = .reading then .ok (s.openTarget purpose (.directory place))
      else .error .isDirectory
    | some (.file number) => .ok (s.openTarget purpose (.file number))
    | some (.device .terminal) => .error .noDevice
    | some (.device d) => .ok (s.openTarget purpose (.device d))
    | some (.pipe number) => .ok (s.openTarget purpose (.pipe number))
    | some (.link _) => .error .tooManyLinks
    | none =>
      if purpose = .reading then .error .notFound
      else
        let (number, files) := s.files.addFile place [] (s.newMode 0o666)
        .ok ({ s with files }.openTarget purpose (.file number))

/-- What is behind something opened. -/
def nodeOf (s : Shell) (target : Target) : Node :=
  match target with
  | .file number => .file number
  | .directory place => (s.files.node? place).getD (.directory Files.usualDirectoryMode)
  | .device d => .device d
  | .pipe number => .pipe number
  | .collected _ => .pipe 0

/-- What a path leads to. -/
def nodeAt? (s : Shell) (name : Text) : Option Node :=
  match standardPath? name with
  | some descriptor => (s.openedAt? descriptor).map fun o => s.nodeOf o.target
  | none => s.files.nodeAt? (path name)

/-- What is known of the file that a path leads to. -/
def fileAt? (s : Shell) (name : Text) : Option FileState :=
  match s.nodeAt? name with
  | some (.file number) => s.files.state? number
  | _ => none

/-! ### Redirections -/

/-- What a shell calls a fault when a file is to be read or, with `creating`, written. -/
def faultText (creating : Bool) : IoFault → Text
  | .notFound | .notDirectory =>
    if creating then "Directory nonexistent".toList else "No such file".toList
  | fault => fault.reason

/-- The complaint about a file. -/
def complainOf (s : Shell) (creating : Bool) (name : Text) (fault : IoFault) : Shell :=
  (s.complain ("cannot ".toList ++ (if creating then "create ".toList else "open ".toList) ++ name
    ++ ": ".toList ++ faultText creating fault)).withStatus 2

/-- Let a descriptor lead to what a path leads to. -/
def redirectTo (s : Shell) (descriptor : Nat) (purpose : Purpose) (name : Text) : Bool × Shell :=
  match s.openPath purpose name with
  | .ok (id, s) => (true, s.setChannel descriptor id)
  | .error fault => (false, s.complainOf (purpose ≠ .reading) name fault)

/-- Let a descriptor be the same as another one that is known by its number. -/
def duplicateOf (s : Shell) (descriptor other : Nat) : Bool × Shell :=
  match s.channel? other with
  | some id => (true, s.setChannel descriptor id)
  | none =>
    (false, (s.complain (Text.ofNat other ++ ": Bad file descriptor".toList)).withStatus 2)

/-- Let a descriptor be the same as another, or be closed. -/
def duplicate (s : Shell) (descriptor : Nat) (name : Text) : Bool × Shell :=
  let refused := (false, (s.complainAt s.lineRead "Syntax error: Bad fd number".toList).breakOff)
  match name with
  | ['-'] => (true, s.close descriptor)
  | [c] => if c.isDigit then s.duplicateOf descriptor (c.toNat - '0'.toNat) else refused
  | _ => refused

/-- Let a descriptor lead to a text. -/
def redirectToText (s : Shell) (descriptor : Nat) (text : Text) : Shell :=
  let (reading, _, scene) := s.toScene.addPipe
  let scene :=
    match (scene.opened? reading).map Opened.target with
    | some (.pipe number) => scene.setPipe number (.holding text)
    | _ => scene
  { s with toScene := scene }.setChannel descriptor reading

/-- Is there a file that is not to be overwritten? -/
def isProtected (s : Shell) (name : Text) : Bool :=
  s.has 'C' &&
    match s.files.nodeAt? (path name) with
    | some (.file _) => true
    | _ => false

/-- Redirect a descriptor to what a word tells: a file, a text or a descriptor. -/
def redirect (s : Shell) (descriptor : Nat) (r : Redirection) (name : Text) : Bool × Shell :=
  match r with
  | .input => s.redirectTo descriptor .reading name
  | .here => (true, s.redirectToText descriptor name)
  | .both => s.redirectTo descriptor .both name
  | .output force =>
    if !force && s.isProtected name then (false, s.complainOf true name .alreadyExists)
    else s.redirectTo descriptor .writing name
  | .append => s.redirectTo descriptor .appending name
  | .duplicate => s.duplicate descriptor name

/-! ### Shells and other processes -/

/-- The shell with what its process shares with others as they have left it. -/
def inScene (s : Shell) (scene : Scene) : Shell :=
  { s with toScene := { scene with files := { scene.files with here := s.files.here } } }

/-- The status of a process that a signal has ended. -/
def killedStatus (signal : Nat) : Nat := 128 + signal

/-- The shell that notices which of its processes in the background have ended. -/
def notice (s : Shell) : Shell :=
  { s with
    noticed := (s.jobs.map Job.number).filter fun number => s.ended.any (·.1 == number) }

/-- The status of a process in the background, if it has ended together with all that it reads
from. -/
def endedStatus? (s : Shell) (number : Nat) : Option Nat :=
  let isDone := (s.jobs.filter (·.number = number)).all fun j =>
    j.earlier.all fun n => s.ended.any (·.1 == n)
  if isDone then s.ended.lookup number else none

/-- The shell without one of the processes that it has waited for, whose place is free again. -/
def forgetJob (s : Shell) : Shell :=
  let freed := ((s.jobs.filter (·.awaited)).map Job.place).min?
  { s with jobs := s.jobs.filter fun j => some j.place ≠ freed }

/-- The shell with more processes in the background that have these numbers. -/
def addJob (s : Shell) (numbers : List Nat) : Shell :=
  match numbers.reverse with
  | [] => s
  | number :: earlier =>
    let free := (List.range (s.jobs.length + 1)).find? fun i => s.jobs.all (·.place ≠ i + 1)
    { s with
      jobs := ⟨free.getD 0 + 1, number, earlier.reverse, false⟩ :: s.jobs
      lastJob := some number }

/-- The shell that has waited for the processes in the background that have these numbers. -/
def markAwaited (s : Shell) (numbers : List Nat) : Shell :=
  let isDone := fun j : Job => numbers.contains j.number && (s.endedStatus? j.number).isSome
  { s with jobs := s.jobs.map fun j => if isDone j then { j with awaited := true } else j }

/-- The process in the background that a word tells by its place or as the last one. -/
def jobAt? (s : Shell) (word : Text) : Option Job :=
  match word with
  | ['%'] | ['%', '%'] | ['%', '+'] => s.jobs.head?
  | ['%', '-'] => s.jobs[1]?
  | '%' :: digits => (digitsValue? 10 digits).bind fun n => s.jobs.find? (·.place = n)
  | _ => none

/-- What is said of a word that tells no process in the background. -/
def noJobText (word : Text) : Text :=
  match word with
  | ['%'] | ['%', '%'] | ['%', '+'] => "No current job".toList
  | ['%', '-'] => "No previous job".toList
  | word => "No such job: ".toList ++ word

/-- The shell after a process that it has waited for has ended, which tells its status.  A signal
that has ended it may be told of. -/
def afterProcess (s : Shell) (number : Nat) : Shell :=
  let said := ((s.killed.lookup number).map signalText).getD []
  let s := if said.isEmpty then s else s.write 2 (said ++ ['\n'])
  (s.withStatus ((s.ended.lookup number).getD s.status)).notice

/-- A shell of its own for commands inside a shell.  What is to be done on signals is forgotten. -/
def inside (s : Shell) : Shell :=
  { s with
    alone := false
    jobs := []
    pending := []
    traps := s.traps.filter (·.2.isEmpty)
    loops := 0 }

end Shell

end NameTables.Script
