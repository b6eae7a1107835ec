import NameTables.Script.Process

/-!
# Reading and writing as processes do

Who reads from a pipe waits until something is in it or nobody can write into it any more; who
writes into one waits until there is room.  With pipes, the output of commands is taken, and
commands are put in a row.

## Main definitions

* `Run.readFrom`, `Run.readAllFrom` — some of what is to be read, and all of it.
* `Run.makeRoom` — the waiting of writers.
* `Run.capture`, `Run.pipeline` — commands whose output is taken.
-/

namespace NameTables.Script

namespace Run

/-! ### Reading -/

/-- Read from something opened, up to a number of characters, and wait until there is anything; or
tell why that cannot be done.  At the end nothing is read.  Others that read from the same may be
faster, but not more often than `fuel` says. -/
def readFrom (id most : Nat) : (fuel : Nat) → Run (Except IoFault Text)
  | 0 => return .ok []
  | fuel + 1 => do
    let s ← get
    match s.toScene.supply id most with
    | (.text text, scene) =>
      set { s with toScene := scene }
      if s.toScene.isEndless id then pass Shell.deviceTime
      return .ok text
    | (.ended, _) => return .ok []
    | (.refused fault, _) => return .error fault
    | (.awaited, _) =>
      await fun s => s.isOver || s.toScene.isSupplied id
      if (← get).isOver then return .ok [] else readFrom id most fuel

/-- How many characters are read at once. -/
def readChunk : Nat := 65536

/-- More often than others are faster, and more pieces than anyone reads. -/
def readLimit : Nat := 1000000000

/-- Read all that is left, in pieces of which the last one comes first. -/
def readPieces (id : Nat) : (fuel : Nat) → List Text → Run (Except IoFault (List Text))
  | 0, pieces => return .ok pieces
  | fuel + 1, pieces => do
    match ← readFrom id readChunk readLimit with
    | .error fault => return .error fault
    | .ok [] => return .ok pieces
    | .ok text => readPieces id fuel (text :: pieces)

/-- Read all that is left of something opened. -/
def readAllFrom (id : Nat) : Run (Except IoFault Text) := do
  return (← readPieces id readLimit []).map fun pieces => pieces.reverse.flatten

/-- Read all that is left of what a descriptor leads to. -/
def readAll (descriptor : Nat) : Run (Except IoFault Text) := do
  match (← get).channel? descriptor with
  | some id => readAllFrom id
  | none => return .error .badDescriptor

/-! ### Writing -/

/-- Wait until there is room in the pipes that are written into.  If nobody reads one any more, a
signal comes. -/
def makeRoom : Run Unit := do
  let s ← get
  let full := s.pipes.filter fun (number, p) => Pipe.capacity < p.size
    && s.held.any fun id => (s.toScene.opened? id).any fun o => o.writes && o.target = .pipe number
  for (number, _) in full do
    await fun s => s.isOver || (s.toScene.pipe number).size ≤ Pipe.capacity
      || !s.toScene.hasReader number
    modify fun s =>
      if s.isOver || s.toScene.hasReader number then s
      else { s with sent := s.sent ++ [(s.number, pipeSignal)] }.receive

/-! ### Commands whose output is taken -/

/-- The shell that holds these open besides what its descriptors lead to. -/
def holding (s : Shell) (ids : List Nat) : Shell :=
  { s with frames := ids.zipIdx.map (fun (id, i) => (i, id)) :: s.frames }.publish

/-- Carry out a command in a shell of its own and take what it writes. -/
def capture (c : Command) : Run Text := do
  let s ← get
  let (reading, writing, scene) := s.toScene.addPipe
  let s := { s with toScene := scene }
  set (holding s [reading, writing])
  let number ← begin (.command c)
    (fun t => { t with frames := s.frames, guarded := 0 }.inside.setChannel 1 writing)
    (Shell.forkTime + Shell.wakeTime)
  modify fun t => holding { t with frames := s.frames } [reading]
  pass Shell.forkTime
  let output ← readAllFrom reading
  modify fun t => { t with frames := s.frames }.publish
  awaitStatus number
  return output.toOption.getD []

/-- Start processes for commands of which each reads what the one before writes, and the first one
from `input`; their numbers.  What the shell held besides is `frames`, and each of theirs begins as it
is prepared; whether it is the first one is told. -/
def startRow (prepare : (first : Bool) → Shell → Shell) (frames : List (List (Nat × Nat))) :
    (input : Option Nat) → List Command → Run (List Nat)
  | _, [] => return []
  | input, c :: rest => do
    let s ← get
    let begun := fun t : Shell =>
      let t := prepare input.isNone { t with frames }.inside
      match input with
      | some id => t.setChannel 0 id
      | none => t
    let delay := Shell.forkTime + Shell.wakeTime
    if rest.isEmpty then
      let number ← begin (.command c) begun delay
      return [number]
    else
      let (reading, writing, scene) := s.toScene.addPipe
      let held := input.toList ++ [reading, writing]
      set (holding { s with toScene := scene, frames } held)
      let number ← begin (.command c) (fun t => (begun t).setChannel 1 writing) delay
      modify fun t => holding { t with frames } [reading]
      pass Shell.forkTime
      return number :: (← startRow prepare frames (some reading) rest)

/-- Carry out commands of which each reads what the one before writes, all at the same time. -/
def pipeline (commands : List Command) : Run Unit := do
  let frames := (← get).frames
  let numbers ← startRow (fun _ t => t) frames none commands
  modify fun s => { s with frames }.publish
  for number in numbers do
    awaitEnd number
    modify fun s => if s.isOver then s else s.afterProcess number
  pass Shell.wakeTime

/-- The time that a process in the background has: some hours. -/
def backgroundTime : Nat := Nat.pow 10 13

/-- Carry out commands of which each reads what the one before writes, in the background, which is not
waited for.  The first one reads nothing. -/
def fork (commands : List Command) : Run Unit := do
  let frames := (← get).frames
  let prepare := fun (first : Bool) (t : Shell) =>
    let t :=
      match first, t.openPath .reading "/dev/null".toList with
      | true, .ok (id, t) => t.setChannel 0 id
      | _, _ => t
    { t with limit := t.clock + backgroundTime, guarded := 0 }
  let numbers ← startRow prepare frames none commands
  modify fun s => ({ s with frames }.publish.addJob numbers).withStatus 0
  pass Shell.forkTime

end Run

end NameTables.Script
