import NameTables.Files.Use
import NameTables.Script.Program

/-!
# What processes share

The processes of a machine share its files, what they have opened, the pipes between them, and the
knowledge of one another.  A file that is opened has a point at which it is read and written next;
processes that have it from one another share that point.

## Main definitions

* `Target`, `Opened` — what is opened, and how far it has been used.
* `Pipe` — what has been written into a pipe and not yet read.
* `Scene` — all that is shared.
* `Scene.supply`, `Scene.accept` — reading from what is opened, and writing to it.
-/

namespace NameTables

/-- May the file be carried out as a program? -/
def FileState.isExecutable (f : FileState) : Bool := f.mode &&& 0o111 ≠ 0

namespace Files

/-- The file at a place. -/
def fileAt? (fs : Files) (place : Place) : Option FileState :=
  match fs.node? place with
  | some (.file number) => fs.state? number
  | _ => none

/-- The nodes that are directly or further below a place, with the names that lead to them from
there, the outermost first. -/
def below (fs : Files) (place : Place) : List (List Text × Node) :=
  fs.nodes.filterMap fun entry =>
    if place <:+ entry.1 ∧ entry.1 ≠ place then
      some ((entry.1.take (entry.1.length - place.length)).reverse, entry.2)
    else none

/-- The names in a directory, with what they stand for. -/
def entries (fs : Files) (place : Place) : List (Text × Node) :=
  fs.nodes.filterMap fun entry =>
    match entry.1 with
    | name :: dir => if dir = place then some (name, entry.2) else none
    | [] => none

end Files

namespace Script

/-- What something opened leads to. -/
inductive Target
  /-- A file. -/
  | file (number : Nat)
  /-- A directory. -/
  | directory (place : Place)
  /-- A device. -/
  | device (d : Device)
  /-- A pipe. -/
  | pipe (number : Nat)
  /-- One of the texts that are collected. -/
  | collected (n : Nat)
  deriving DecidableEq, Repr

/-- Something opened. -/
structure Opened where
  /-- What it leads to. -/
  target : Target
  /-- May it be read? -/
  reads : Bool
  /-- May it be written? -/
  writes : Bool
  /-- Is everything written to the end of the file? -/
  appends : Bool
  /-- Where in the file it is used next. -/
  offset : Nat
  /-- What follows that point, with the revision of the file for which this was found out. -/
  ahead : Option (Nat × Text)

namespace Opened

/-- A target opened to be read. -/
def toRead (target : Target) : Opened := ⟨target, true, false, false, 0, none⟩

/-- A target opened to be written. -/
def toWrite (target : Target) (appends : Bool) : Opened := ⟨target, false, true, appends, 0, none⟩

end Opened

/-- What has been written into a pipe and not yet read. -/
structure Pipe where
  /-- What is read first. -/
  front : Text
  /-- What is read after that, in pieces, the last one first. -/
  back : List Text
  /-- How much there is. -/
  size : Nat

namespace Pipe

/-- A pipe with nothing in it. -/
def empty : Pipe := ⟨[], [], 0⟩

/-- A pipe with a text in it. -/
def holding (text : Text) : Pipe := ⟨text, [], text.length⟩

/-- The pipe after a text has been written into it. -/
def push (p : Pipe) (text : Text) : Pipe :=
  if text.isEmpty then p
  else if p.front.isEmpty && p.back.isEmpty then ⟨text, [], text.length⟩
  else ⟨p.front, text :: p.back, p.size + text.length⟩

/-- What is read next, up to a number of characters, and the pipe after that. -/
def pop (p : Pipe) (most : Nat) : Text × Pipe :=
  let front := if p.front.isEmpty then p.back.reverse.flatten else p.front
  let back := if p.front.isEmpty then [] else p.back
  let taken := front.take most
  (taken, ⟨front.drop most, back, p.size - taken.length⟩)

/-- All that is in the pipe. -/
def text (p : Pipe) : Text := p.front ++ p.back.reverse.flatten

/-- How much a pipe holds before writers have to wait. -/
def capacity : Nat := 65536

end Pipe

/-- What the processes of a machine share. -/
structure Scene where
  /-- The files. -/
  files : Files
  /-- The texts that are collected, each in pieces, the last one first. -/
  collected : List (List Text)
  /-- What is opened, by number. -/
  opened : List (Nat × Opened)
  /-- The pipes, by number. -/
  pipes : List (Nat × Pipe)
  /-- The number of what was opened last. -/
  latestOpened : Nat
  /-- The processes that have not ended, by number, with what they hold open. -/
  running : List (Nat × List Nat)
  /-- The statuses of the processes that have ended, by number. -/
  ended : List (Nat × Nat)
  /-- The signals that have ended processes, by number. -/
  killed : List (Nat × Nat)
  /-- The signals that were sent to processes, by number. -/
  sent : List (Nat × Nat)
  /-- The number of the process that was started last. -/
  latest : Nat

namespace Scene

/-- What is opened under a number. -/
def opened? (sc : Scene) (id : Nat) : Option Opened := sc.opened.lookup id

/-- The scene after something opened has been used. -/
def setOpened (sc : Scene) (id : Nat) (o : Opened) : Scene :=
  { sc with opened := sc.opened.map fun entry => if entry.1 = id then (id, o) else entry }

/-- The scene with something more opened, and its number. -/
def add (sc : Scene) (o : Opened) : Nat × Scene :=
  let id := sc.latestOpened + 1
  (id, { sc with opened := (id, o) :: sc.opened, latestOpened := id })

/-- The pipe with a number. -/
def pipe (sc : Scene) (number : Nat) : Pipe := (sc.pipes.lookup number).getD .empty

/-- The scene after a pipe has been used. -/
def setPipe (sc : Scene) (number : Nat) (p : Pipe) : Scene :=
  { sc with pipes := (number, p) :: sc.pipes.filter (·.1 != number) }

/-- The scene with one more pipe, which is opened to be read and to be written; the numbers of
these. -/
def addPipe (sc : Scene) : Nat × Nat × Scene :=
  let number := sc.files.latest + 1
  let sc := { sc with files := { sc.files with latest := number } }.setPipe number .empty
  let (reading, sc) := sc.add (.toRead (.pipe number))
  let (writing, sc) := sc.add (.toWrite (.pipe number) false)
  (reading, writing, sc)

/-- Is the pipe opened by anyone who can read it? -/
def hasReader (sc : Scene) (number : Nat) : Bool :=
  sc.opened.any fun (_, o) => o.reads && o.target = .pipe number

/-- Is the pipe opened by anyone who can write into it? -/
def hasWriter (sc : Scene) (number : Nat) : Bool :=
  sc.opened.any fun (_, o) => o.writes && o.target = .pipe number

/-- The scene without what no process holds open any more. -/
def sweep (sc : Scene) : Scene :=
  let opened := sc.opened.filter fun (id, _) => sc.running.any fun (_, held) => held.contains id
  if opened.length = sc.opened.length then sc
  else
    let isOpened := fun number : Nat => opened.any fun (_, o) => o.target = .pipe number
    { sc with opened, pipes := sc.pipes.filter (isOpened ·.1) }

/-- The scene in which a process holds these open. -/
def hold (sc : Scene) (process : Nat) (held : List Nat) : Scene :=
  sweep { sc with
    running := sc.running.map fun entry => if entry.1 = process then (process, held) else entry }

/-! ### Reading and writing -/

/-- What there is to read. -/
inductive Supply
  /-- Some text. -/
  | text (s : Text)
  /-- Nothing any more. -/
  | ended
  /-- Nothing yet. -/
  | awaited
  /-- Nothing, for a reason. -/
  | refused (fault : IoFault)

/-- How many characters of a device without end are read at once. -/
def deviceChunk : Nat := 65536

/-- What is read at once from a device that never ends. -/
def zeroChunk : Text := List.replicate deviceChunk '\x00'

/-- Read from something opened, up to a number of characters. -/
def supply (sc : Scene) (id most : Nat) : Supply × Scene :=
  match sc.opened? id with
  | none => (.refused .badDescriptor, sc)
  | some o =>
    if !o.reads then (.refused .badDescriptor, sc)
    else
      match o.target with
      | .collected _ => (.ended, sc)
      | .directory _ => (.refused .isDirectory, sc)
      | .device .sink => (.ended, sc)
      | .device .terminal => (.refused .noDevice, sc)
      | .device _ =>
        (.text (if most < deviceChunk then List.replicate most '\x00' else zeroChunk), sc)
      | .file number =>
        match sc.files.state? number with
        | none => (.ended, sc)
        | some file =>
          let ahead :=
            match o.ahead with
            | some (revision, rest) =>
              if revision = file.revision then rest else ofBytes (file.content.drop o.offset)
            | none => ofBytes (file.content.drop o.offset)
          let taken := ahead.take most
          if taken.isEmpty then (.ended, sc)
          else
            (.text taken, sc.setOpened id { o with
              offset := o.offset + taken.length
              ahead := some (file.revision, ahead.drop most) })
      | .pipe number =>
        let (taken, rest) := (sc.pipe number).pop most
        if !taken.isEmpty then (.text taken, sc.setPipe number rest)
        else if sc.hasWriter number then (.awaited, sc)
        else (.ended, sc)

/-- Can something be read without end? -/
def isEndless (sc : Scene) (id : Nat) : Bool :=
  match sc.opened? id with
  | some o => match o.target with | .device _ => true | _ => false
  | none => false

/-- Can something be read without waiting, be it the end? -/
def isSupplied (sc : Scene) (id : Nat) : Bool :=
  match sc.opened? id with
  | some o =>
    match o.target with
    | .pipe number => 0 < (sc.pipe number).size || !sc.hasWriter number
    | _ => true
  | none => true

/-- Is there somebody who writes what is opened, if that is a pipe, or has there been? -/
def isWritten (sc : Scene) (id : Nat) : Bool :=
  match sc.opened? id with
  | some o =>
    match o.target with
    | .pipe number => 0 < (sc.pipe number).size || sc.hasWriter number
    | _ => true
  | none => true

/-- The scene after a text was not read after all: what is opened begins with it again.  Only what
has a point of its own can be set back. -/
def giveBack (sc : Scene) (id : Nat) (text : Text) : Scene :=
  match sc.opened? id with
  | some o =>
    match o.target with
    | .file _ =>
      sc.setOpened id { o with
        offset := o.offset - text.length
        ahead := o.ahead.map fun (revision, rest) => (revision, text ++ rest) }
    | _ => sc
  | none => sc

/-- The content of a file in which a text stands at a point. -/
def splice (content : Bytes) (offset : Nat) (text : Bytes) : Bytes :=
  content.take offset ++ List.replicate (offset - content.length) 0 ++ text
    ++ content.drop (offset + text.length)

/-- Write to something opened; there may be a reason that this cannot be done. -/
def accept (sc : Scene) (id : Nat) (text : Text) : Option IoFault × Scene :=
  match sc.opened? id with
  | none => (some .badDescriptor, sc)
  | some o =>
    if !o.writes then (some .badDescriptor, sc)
    else if text.isEmpty then (none, sc)
    else
      match o.target with
      | .directory _ => (some .isDirectory, sc)
      | .device .full => (some .noSpace, sc)
      | .device _ => (none, sc)
      | .collected n => (none, { sc with collected := sc.collected.modify n (text :: ·) })
      | .file number =>
        let content := sc.files.content number
        let offset := if o.appends then content.length else o.offset
        let files := sc.files.setContent number
          (if offset = content.length then content ++ toBytes text
          else splice content offset (toBytes text))
        (none, { sc with files }.setOpened id { o with
          offset := offset + text.length, ahead := none })
      | .pipe number =>
        if sc.hasReader number then (none, sc.setPipe number ((sc.pipe number).push text))
        else (some .brokenPipe, sc)

end Scene

end Script

end NameTables
