import NameTables.Failure

/-!
# Files

A store of directories, files, links and devices below one root, with the directory relative paths
start from.  A place is told by names alone, the innermost first; how a path leads to a place is
the matter of `NameTables.Files.Walk`.

Files are numbered, and what a file holds belongs to its number: so a file may be at several places,
and there is still something to read when it is at none.

## Main definitions

* `Node` — a directory, a file, a link or a device.
* `Place` — where a node is.
* `Files`, `Files.node?`, `Files.state?` — the store, what is at a place, and what a file holds.
* `Files.put`, `Files.erase`, `Files.setState` — its changes.

## Main statements

* `Files.node?_put` — putting a node changes what is at its place and nothing else.
* `Files.node?_erase` — erasing a place empties it and all below it.
* `Files.state?_setState` — a change of one file changes no other.
-/

namespace NameTables

/-- A device. -/
inductive Device
  /-- What is written to it is lost, and there is nothing to read. -/
  | sink
  /-- It gives zeros without end, and what is written to it is lost. -/
  | zeros
  /-- It gives zeros without end too, but there is no room to write anything. -/
  | full
  /-- The terminal, of which there is none. -/
  | terminal
  deriving DecidableEq, Repr

/-- What can be at a place. -/
inductive Node
  /-- A directory, with its permissions. -/
  | directory (mode : Nat)
  /-- A file, by its number. -/
  | file (number : Nat)
  /-- A link to the path that its text tells. -/
  | link (target : Text)
  /-- A device. -/
  | device (d : Device)
  /-- A pipe, by its number. -/
  | pipe (number : Nat)
  deriving DecidableEq, Repr

/-- Is it a directory? -/
def Node.isDirectory : Node → Bool
  | .directory _ => true
  | _ => false

/-- Does it give without end, or not before someone else writes, so that nobody comes to an end who
reads all of it? -/
def Node.isEndless : Node → Bool
  | .device .zeros | .device .full | .pipe _ => true
  | _ => false

/-- What is known of a file. -/
structure FileState where
  /-- Its content. -/
  content : Bytes
  /-- Its permissions.  They decide whether it can be started as a program; the files are read and
  written here by someone whom no permissions stop. -/
  mode : Nat
  /-- How often its content has changed. -/
  revision : Nat
  /-- When that happened last, in nanoseconds. -/
  changed : Int
  deriving DecidableEq, Repr

/-- A place: the names that lead to it from the root, the innermost first. -/
abbrev Place := List Text

/-- A store of files. -/
structure Files where
  /-- The nodes with their places. -/
  nodes : List (Place × Node)
  /-- The files by their numbers. -/
  states : List (Nat × FileState)
  /-- The greatest number that a file or a pipe has had. -/
  latest : Nat
  /-- The directory that relative paths start from. -/
  here : Place
  /-- The time, in nanoseconds. -/
  now : Int
  deriving DecidableEq, Repr

namespace Files

/-! ### Entries under keys -/

/-- The entry under a key. -/
def entryIn? {κ ν : Type} [DecidableEq κ] (entries : List (κ × ν)) (key : κ) : Option ν :=
  (entries.find? fun entry => entry.1 = key).map Prod.snd

/-- Entries with the one under `key` replaced, or added at the end. -/
def putIn {κ ν : Type} [DecidableEq κ] (key : κ) (value : ν) : List (κ × ν) → List (κ × ν)
  | [] => [(key, value)]
  | entry :: rest =>
    if entry.1 = key then (key, value) :: rest else entry :: putIn key value rest

theorem entryIn?_putIn {κ ν : Type} [DecidableEq κ] (entries : List (κ × ν)) (key other : κ)
    (value : ν) :
    entryIn? (putIn key value entries) other =
      if other = key then some value else entryIn? entries other := by
  induction entries with
  | nil =>
    by_cases h : other = key
    · simp [entryIn?, putIn, h]
    · simp [entryIn?, putIn, h, Ne.symm h]
  | cons entry rest ih =>
    simp only [entryIn?, putIn] at ih ⊢
    by_cases he : entry.1 = key
    · by_cases h : other = key
      · simp [he, h]
      · simp [he, h, Ne.symm h]
    · by_cases h : other = entry.1
      · subst h
        simp [he]
      · simp [he, Ne.symm h, ih]

/-! ### Nodes -/

/-- What is at a place. -/
def node? (fs : Files) (place : Place) : Option Node := entryIn? fs.nodes place

/-- The store with a node put at a place. -/
def put (fs : Files) (place : Place) (node : Node) : Files :=
  { fs with nodes := putIn place node fs.nodes }

/-- Putting a node changes what is at its place and nothing else. -/
theorem node?_put (fs : Files) (place other : Place) (node : Node) :
    (fs.put place node).node? other = if other = place then some node else fs.node? other :=
  entryIn?_putIn ..

@[simp] theorem node?_put_self (fs : Files) (place : Place) (node : Node) :
    (fs.put place node).node? place = some node := by
  simp [node?_put]

theorem node?_put_of_ne {place other : Place} (h : other ≠ place) (fs : Files) (node : Node) :
    (fs.put place node).node? other = fs.node? other := by
  simp [node?_put, h]

@[simp] theorem here_put (fs : Files) (place : Place) (node : Node) :
    (fs.put place node).here = fs.here := rfl

/-- The store without what is at a place and below it. -/
def erase (fs : Files) (place : Place) : Files :=
  { fs with nodes := fs.nodes.filter fun entry => ¬ place <:+ entry.1 }

/-- Erasing a place empties it and all below it, and nothing else. -/
theorem node?_erase (fs : Files) (place other : Place) :
    (fs.erase place).node? other = if place <:+ other then none else fs.node? other := by
  simp only [node?, entryIn?, erase, List.find?_filter]
  by_cases h : place <:+ other
  · simp only [h, if_true, Option.map_eq_none_iff, List.find?_eq_none]
    intro entry _
    by_cases he : entry.1 = other
    · simp [he, h]
    · simp [he]
  · simp only [h, if_false]
    congr 2
    funext entry
    by_cases he : entry.1 = other
    · simp [he, h]
    · simp [he]

/-- Is a directory at the place? -/
def isDirectory (fs : Files) (place : Place) : Bool :=
  ((fs.node? place).map Node.isDirectory).getD false

/-! ### What files hold -/

/-- What is known of the file with a number. -/
def state? (fs : Files) (number : Nat) : Option FileState := entryIn? fs.states number

/-- The store after a file has changed. -/
def setState (fs : Files) (number : Nat) (state : FileState) : Files :=
  { fs with states := putIn number state fs.states }

/-- A change of one file changes no other. -/
theorem state?_setState (fs : Files) (number other : Nat) (state : FileState) :
    (fs.setState number state).state? other =
      if other = number then some state else fs.state? other :=
  entryIn?_putIn ..

@[simp] theorem node?_setState (fs : Files) (number : Nat) (state : FileState) (place : Place) :
    (fs.setState number state).node? place = fs.node? place := rfl

@[simp] theorem state?_put (fs : Files) (place : Place) (node : Node) (number : Nat) :
    (fs.put place node).state? number = fs.state? number := rfl

/-- The content of the file with a number. -/
def content (fs : Files) (number : Nat) : Bytes :=
  ((fs.state? number).map FileState.content).getD []

/-- The store after the file with a number has got another content. -/
def setContent (fs : Files) (number : Nat) (content : Bytes) : Files :=
  match fs.state? number with
  | some state =>
    fs.setState number
      { state with content, revision := state.revision + 1, changed := fs.now }
  | none => fs

/-- The store with a new file at a place, and its number. -/
def addFile (fs : Files) (place : Place) (content : Bytes) (mode : Nat) : Nat × Files :=
  let number := fs.latest + 1
  (number, { fs.setState number ⟨content, mode, 0, fs.now⟩ with latest := number }.put place
    (.file number))

/-! ### Directories -/

/-- The absolute path of a place. -/
def pathOf (place : Place) : Path :=
  match place with
  | [] => ⟨['/']⟩
  | _ => ⟨place.reverse.flatMap fun name => '/' :: name⟩

/-- The path of the directory that relative paths start from. -/
def herePath (fs : Files) : Path := pathOf fs.here

end Files

end NameTables
