import NameTables.Script.Utility.Edit.Machine

/-!
# The editor of lines

A program of instructions is carried out for each line of some files, and what they print goes to
the output, to other files, or into the place of the file that was read.

## Main definitions

* `Edit.Feed` — the lines that are still to come.
* `Edit.Session` — a machine with its lines and what it prints.
* `editLines` — the program.
-/

namespace NameTables.Script.Edit

/-- A file of which lines are read. -/
structure Source where
  /-- The number of what is opened. -/
  id : Nat
  /-- The descriptor that is closed behind it; none for the input. -/
  descriptor : Option Nat

/-- The lines that are still to come. -/
structure Feed where
  /-- The files that have not been begun. -/
  names : List Text
  /-- The name of the present one. -/
  name : Text
  /-- What is read; nothing behind the end of a file. -/
  source : Option Source
  /-- Lines that have been read. -/
  lines : List Text
  /-- The beginning of the next one, or the last line if it has no end. -/
  begun : Text

/-- Is there another line that has been read? -/
def Feed.hasLine (f : Feed) : Bool :=
  !f.lines.isEmpty || (f.source.isNone && !f.begun.isEmpty)

/-- The next line, whether it has an end, and what follows it. -/
def Feed.take (f : Feed) : Text × Bool × Feed :=
  match f.lines with
  | line :: lines => (line, true, { f with lines })
  | [] => (f.begun, false, { f with begun := [] })

/-- How a session is conducted. -/
structure Conduct where
  /-- What does not change for its machine. -/
  setting : Setting
  /-- Does each file have lines of its own? -/
  separates : Bool
  /-- Is each file replaced by what is printed for it? -/
  replaces : Bool
  /-- What belongs to the name under which the former file is kept; it is not kept if this is
  empty. -/
  suffix : Text
  /-- The descriptors of the files that are written. -/
  targets : List (Text × Nat)

/-- A machine with its lines and what it prints. -/
structure Session where
  /-- The machine. -/
  machine : Machine
  /-- Its lines. -/
  feed : Feed
  /-- What is printed later, the last piece first. -/
  held : List Text
  /-- How much that is. -/
  size : Nat
  /-- Where a line without an end has been printed. -/
  unended : List (Option Text)
  /-- Is there a file that is to be replaced? -/
  editing : Bool
  /-- The lines that are left of files that are printed line by line. -/
  readers : List (Text × List Text)
  /-- The status that it ends with, if it has ended. -/
  result : Option Nat
  /-- Was there a file that could not be read? -/
  failed : Bool

namespace Session

/-- How much is printed at once. -/
def blockSize : Nat := 4096

/-- Print what has been held back. -/
def flush (x : Session) : Run Session := do
  Run.printAs "couldn't flush stdout" 4 x.held.reverse.flatten
  return { x with held := [], size := 0 }

/-- Print text to the output; it is held back until there is enough of it, or until its file is
replaced. -/
def print (k : Conduct) (x : Session) (text : Text) : Run Session :=
  let x := { x with held := text :: x.held, size := x.size + text.length }
  if !k.replaces && blockSize ≤ x.size then x.flush else return x

/-- Write text to a file, or print it. -/
def write (k : Conduct) (x : Session) (file : Option Text) (text : Text) : Run Session := do
  match file with
  | none => x.print k text
  | some file =>
    if file = "/dev/stdout".toList then
      if !k.replaces then x.print k text
      else
        Run.print text
        return x
    else
      match k.targets.lookup file with
      | none => return x
      | some descriptor =>
        match (← get).put descriptor text with
        | (none, s) =>
          set s
          Run.makeRoom
        | (some fault, s) =>
          set ((s.failWith 4 ("couldn't flush <unknown>: ".toList ++ fault.reason)).quit 4)
        return x

/-- Print what a line lacks that was printed without an end. -/
def complete (k : Conduct) (x : Session) (file : Option Text) : Run Session :=
  if x.unended.contains file then
    { x with unended := x.unended.filter (· != file) }.write k file [k.setting.stop]
  else return x

/-- Print a piece. -/
def deliver (k : Conduct) (x : Session) (p : Printed) : Run Session := do
  let x ← x.complete k p.file
  let x ← x.write k p.file p.text
  return if p.unended then { x with unended := p.file :: x.unended } else x

/-- Print all that the machine has printed. -/
def deliverAll (k : Conduct) (x : Session) : Run Session := do
  let mut y := { x with machine := { x.machine with printed := [] } }
  for p in x.machine.printed.reverse do
    y ← y.deliver k p
  return y

/-- What a file holds that is to be printed; nothing if it cannot be read. -/
def contentToPrint (name : Text) : Run Text := do
  let name := if name = "/dev/stdin".toList then ['-'] else name
  match ← Run.contentOf (if name = ['-'] then name else asPath name) with
  | .ok text => return text
  | .error _ => return []
where
  /-- A name that is no hyphen. -/
  asPath (name : Text) : Text := if name = ['-'] then "./-".toList else name

/-- The next line of a file that is printed line by line. -/
def nextOf (k : Conduct) (x : Session) (name : Text) : Run (Text × Session) := do
  let lines ←
    match x.readers.lookup name with
    | some lines => pure lines
    | none => pure (linesEnded k.setting.stop (← contentToPrint name))
  let readers := (name, lines.tail) :: x.readers.filter (·.1 != name)
  return ((lines.head?).getD [], { x with readers })
where
  /-- The lines of a text, each with its end. -/
  linesEnded (stop : Char) (s : Text) : List Text :=
    s.foldr (fun c lines => if c = stop then [c] :: lines else consFirst c lines) []

/-- Print what belongs behind the line. -/
def append (k : Conduct) (x : Session) : Run Session := do
  let mut y := { x with machine := { x.machine with appended := [] } }
  for a in x.machine.appended.reverse do
    y ← y.complete k none
    match a with
    | .text s => y ← y.print k s
    | .file name => y ← y.print k (← contentToPrint name)
    | .line name =>
      let (line, z) ← y.nextOf k name
      y ← z.print k line
  return y

/-! ### Lines -/

/-- End the session with a status and a message.  No file is replaced any more. -/
def breakOff (x : Session) (status : Nat) (said : Text) : Run Session := do
  Run.say said
  let x ← if x.editing then pure x else x.flush
  return { x with result := some status, editing := false, failed := false }

/-- Put what has been printed for a file into its place, and keep the former file under another
name if that is wished. -/
def replaceFile (k : Conduct) (x : Session) : Run Session := do
  let text := x.held.reverse.flatten
  if !x.editing then return x
  modify fun s =>
    match s.files.locateLink (Shell.path x.feed.name) with
    | .error _ => s
    | .ok place =>
      let mode := ((s.files.fileAt? place).map FileState.mode).getD 0o644
      let files :=
        match if k.suffix.isEmpty then none else s.files.node? place with
        | none => s.files
        | some node =>
          match s.files.locateNew (Shell.path (keptName x.feed.name)) with
          | .ok kept => s.files.put kept node
          | .error _ => s.files
      { s with files := (files.addFile place (toBytes text) mode).2 }
  let unended := x.unended.filter (· != none)
  return { x with held := [], size := 0, editing := false, unended }
where
  /-- The name under which a file is kept. -/
  keptName (name : Text) : Text :=
    let base := (name.reverse.takeWhile (· ≠ '/')).reverse
    let lead := name.take (name.length - base.length)
    let kept :=
      if '*' ∈ k.suffix then k.suffix.flatMap fun c => if c = '*' then base else [c]
      else base ++ k.suffix
    if '/' ∈ kept then kept else lead ++ kept

/-- The session behind the end of a file. -/
def leaveFile (x : Session) : Run Session := do
  match x.feed.source with
  | none => pure ()
  | some source =>
    match source.descriptor with
    | some d => modify (·.close d)
    | none => pure ()
  return { x with feed := { x.feed with source := none } }

/-- Begin the next file, if it can be read. -/
def enterFile (k : Conduct) (x : Session) (name : Text) (names : List Text) : Run Session := do
  let x ← x.replaceFile k
  let x ← if k.separates && !k.replaces then x.complete k none else pure x
  let m := x.machine
  let m :=
    if k.separates then
      { m with
        line := 0
        kept := { m.kept with text := [] }
        ranges := Machine.firstRanges k.setting.program }
    else m
  let x := { x with
    machine := m
    readers := if k.separates then [] else x.readers
    feed := { x.feed with names } }
  let entered := fun (source : Source) =>
    { x with feed := { x.feed with name, source := some source }, editing := k.replaces }
  if name = ['-'] && !k.replaces then
    match (← get).channel? 0 with
    | some id => return entered ⟨id, none⟩
    | none => x.breakOff 4 "read error on stdin: Bad file descriptor".toList
  else
    let s ← get
    match s.openPath .reading name with
    | .error fault =>
      Run.say ("can't read ".toList ++ name ++ ": ".toList ++ fault.reason)
      return { x with failed := true }
    | .ok (id, s) =>
      let isFile :=
        match (s.toScene.opened? id).map Opened.target with
        | some (.file _) => true
        | _ => false
      if k.replaces && !isFile then
        x.breakOff 4 ("couldn't edit ".toList ++ name ++ ": not a regular file".toList)
      else
        let descriptor := s.freeDescriptor
        set (s.setChannel descriptor id)
        Run.await fun s => s.isOver || s.toScene.isWritten id
        return entered ⟨id, some descriptor⟩

/-- Is there another line in the present file?  It is read if need be. -/
def look (k : Conduct) : (fuel : Nat) → Session → Run Session
  | 0, x => return x
  | fuel + 1, x => do
    if x.feed.hasLine || !(← Run.goes) then return x
    match x.feed.source with
    | none => return x
    | some source =>
      match ← Run.readFrom source.id Run.readChunk Run.readLimit with
      | .error fault =>
        let name := if x.feed.name = ['-'] then "stdin".toList else x.feed.name
        x.breakOff 4 ("read error on ".toList ++ name ++ ": ".toList ++ fault.reason)
      | .ok [] => x.leaveFile
      | .ok text =>
        let (lines, begun) := Run.splitEndedLines k.setting.stop (x.feed.begun ++ text)
        look k fuel { x with feed := { x.feed with lines, begun } }

/-- Is there another line?  Files are begun if need be, where all files are one. -/
def lookOn (k : Conduct) (enters : Bool) : (fuel : Nat) → Session → Run Session
  | 0, x => return x
  | fuel + 1, x => do
    let x ← x.look k Run.readLimit
    if x.feed.hasLine || !enters || x.result.isSome then return x
    else
      match x.feed.names with
      | [] => return x
      | name :: names => lookOn k enters fuel (← x.enterFile k name names)

/-- Take the next line, in place of the text or behind it. -/
def take (k : Conduct) (x : Session) (adds : Bool) : Run Session := do
  let (line, ended, feed) := x.feed.take
  let text := symbolsOf line
  let m := x.machine
  let pattern : Buffer := ⟨if adds then m.pattern.text ++ k.setting.stop :: text else text, ended⟩
  let m := { m with
    pattern
    line := m.line + 1
    name := x.feed.name
    replaced := false
    status := .running }
  let x ← lookOn k (!k.separates) (feed.names.length + 1) { x with machine := m, feed }
  return { x with machine := { x.machine with isLast := !x.feed.hasLine } }

/-! ### Steps -/

/-- The command that carries out a text. -/
def commandFor (text : Text) : Command :=
  let word := fun s : Text => Script.piecesOf true s .nil
  .simple 1 .nil (.cons (word "sh".toList) (.cons (word "-c".toList) (.cons (word text) .nil))) .nil

/-- Carry out a command; what it writes is printed, or becomes the text. -/
def carryOut (k : Conduct) (x : Session) (command : Text) (becomes prints : Bool) :
    Run Session := do
  let x ← if k.replaces then pure x else x.flush
  let text ← Run.capture (commandFor command)
  let m := { x.machine with status := .running }
  if becomes then
    let text := if text.getLast? = some k.setting.stop then text.dropLast else text
    let m := { m with pattern := { m.pattern with text := symbolsOf text } }
    return { x with machine := if prints then m.emitLine k.setting none m.pattern else m }
  else
    let x ← { x with machine := m }.complete k none
    x.print k text

/-- Print the text at the end of a cycle, unless that is not wished, and what belongs behind it. -/
def endCycle (k : Conduct) (x : Session) (prints : Bool) : Run Session := do
  let m := x.machine
  let x :=
    if prints && !k.setting.quiet && !m.dropped then
      { x with machine := m.emitLine k.setting none m.pattern }
    else x
  let x ← x.deliverAll k
  x.append k

/-- How many instructions are carried out before others are let on. -/
def sliceSize : Nat := 1000

/-- The time that so many instructions take. -/
def sliceTime : Nat := 1000000

/-- Begin with the next line, if there is one, or end. -/
def nextCycle (k : Conduct) (x : Session) : Run Session := do
  let x ← lookOn k true (x.feed.names.length + 1) x
  if x.result.isSome then return x
  else if x.feed.hasLine then
    take k { x with machine := { x.machine with place := 0, dropped := false } } false
  else return { x with result := some 0 }

/-- Give back what has been read without need, and print what has been held back. -/
def finish (k : Conduct) (x : Session) (status : Nat) : Run Unit := do
  let x ← x.replaceFile k
  let stop := k.setting.stop
  let rest := (x.feed.lines.flatMap fun line => line ++ [stop]) ++ x.feed.begun
  match x.feed.source with
  | some source => modify fun s => { s with toScene := s.toScene.giveBack source.id rest }
  | none => pure ()
  let x ← x.flush
  if ← Run.goes then modify (·.withStatus (if x.failed then 2 else status))

/-- Go on up to where something else than instructions is needed, and do that. -/
def step (k : Conduct) (x : Session) : Run (Option Session) := do
  if !(← Run.goes) then return none
  if let some status := x.result then
    x.finish k status
    return none
  match x.machine.status with
  | .running =>
    let x ← { x with machine := x.machine.advance k.setting sliceSize }.deliverAll k
    if let .running := x.machine.status then Run.pass sliceTime
    return some x
  | .wants adds =>
    let x ← x.append k
    return some (← x.take k adds)
  | .done =>
    let x ← x.endCycle k true
    return some (← x.nextCycle k)
  | .again =>
    let x ← x.endCycle k false
    let m := { x.machine with place := 0, dropped := false, status := .running }
    return some { x with machine := m }
  | .runs command becomes prints => return some (← x.carryOut k command becomes prints)
  | .quits status prints =>
    let x ←
      if prints then
        let x ← x.endCycle k true
        x.complete k none
      else x.deliverAll k
    return some { x with result := some status }
  | .fails said => return some (← x.breakOff 1 said)

end Session

/-! ### The program -/

/-- The arguments with the letter for files that are replaced, and what belongs to it, made a long
option. -/
def withSuffix (args : List Text) : List Text :=
  args.flatMap fun word =>
    match word with
    | '-' :: letters =>
      let lead := letters.takeWhile (· ∈ "nErsuzb".toList)
      match letters.drop lead.length with
      | 'i' :: suffix =>
        (if lead.isEmpty then [] else ['-' :: lead]) ++ ["--in-place=".toList ++ suffix]
      | _ => [word]
    | word => [word]

/-- The usage of the editor. -/
def usage : Usage :=
  ⟨"nErsuzb", "efl", [("quiet", 'n'), ("silent", 'n'), ("expression", 'e'), ("file", 'f'),
    ("regexp-extended", 'E'), ("in-place", 'I'), ("line-length", 'l'), ("separate", 's'),
    ("unbuffered", 'u'), ("null-data", 'z'), ("zero-terminated", 'z'), ("posix", 'P'),
    ("binary", 'b'), ("follow-symlinks", 'L'), ("debug", 'D'), ("sandbox", 'S')]⟩

/-- What is said about the use of the editor, in short. -/
def usageText : Text :=
  ("Usage: sed [OPTION]... \x7bscript-only-if-no-other-script\x7d [input-file]...\n").toList

/-- The pieces of the program that the options tell. -/
def piecesFor : List (Char × Text) → Run (Except Text (List Piece))
  | [] => return .ok []
  | (letter, word) :: options => do
    let first : Except Text (List Piece) ←
      if letter = 'e' then pure (.ok [⟨none, word⟩])
      else if letter = 'f' then
        match ← Run.contentOf word with
        | .ok text =>
          pure (.ok [⟨some word, if text.getLast? = some '\n' then text.dropLast else text⟩])
        | .error fault =>
          pure (.error ("couldn't open file ".toList ++ word ++ ": ".toList ++ fault.reason))
      else pure (.ok [])
    match first with
    | .error said => return .error said
    | .ok first => return (← piecesFor options).map (first ++ ·)

/-- Does the program say in front that the text is printed only when told? -/
def asksForQuiet (pieces : List Piece) : Bool :=
  match pieces.head?.map Piece.text with
  | some ['#', 'n'] => true
  | some ('#' :: 'n' :: '\n' :: _) => true
  | _ => false

/-- Open the files that a program writes. -/
def openTargets : List Text → Run (Except Text (List (Text × Nat)))
  | [] => return .ok []
  | name :: names => do
    let s ← get
    if name = "/dev/stdout".toList then openTargets names
    else
      match s.openPath .writing name with
      | .error fault =>
        return .error ("couldn't open file ".toList ++ name ++ ": ".toList ++ fault.reason)
      | .ok (id, s) =>
        let descriptor := s.freeDescriptor
        set (s.setChannel descriptor id)
        return (← openTargets names).map ((name, descriptor) :: ·)

/-- Carry out a program for each line of some files. -/
def conduct (options : List (Char × Text)) (pieces : List Piece) (names : List Text) :
    Run Unit := do
  let given := fun letters : String => letters.toList.any (isGiven · options)
  match readProgram (given "Er") pieces with
  | .error fault =>
    let status :=
      match fault.place with
      | .nowhere => 4
      | _ => 1
    modify (·.failWith status (fault.text pieces))
  | .ok program =>
    match ← openTargets (filesOf program) with
    | .error said => modify (·.failWith 4 said)
    | .ok targets =>
      let setting : Setting := {
        program
        quiet := given "n" || asksForQuiet pieces
        stop := if given "z" then '\x00' else '\n'
        width := ((wordOf? 'l' options).bind (digitsValue? 10)).getD 70 }
      let replaces := given "I"
      let k : Conduct := ⟨setting, replaces || given "s", replaces,
        (wordOf? 'I' options).getD [], targets⟩
      if replaces && names.isEmpty then modify (·.failWith 4 "no input files".toList)
      else
        let feed : Feed := ⟨if names.isEmpty then [['-']] else names, ['-'], none, [], []⟩
        let m := { Machine.start program with dropped := true }
        repeatWhile (Session.step k) (← get).stepsLeft
          ⟨m, feed, [], 0, [], false, [], none, false⟩

/-- Edit the lines of files. -/
def editLines : Utility := fun args => do
  match usage.split (withSuffix args) with
  | .error said => modify fun s => ((s.say said).write 2 usageText).withStatus 1
  | .ok (options, operands) =>
    match ← piecesFor options, operands with
    | .error said, _ => modify (·.failWith 4 said)
    | .ok [], [] => modify fun s => (s.write 2 usageText).withStatus 1
    | .ok [], script :: names => conduct options [⟨none, script⟩] names
    | .ok pieces, names => conduct options pieces names

end NameTables.Script.Edit
