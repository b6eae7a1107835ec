import NameTables.Files.Walk

/-!
# Using files

What a program does with files by their paths: read one, write one, make directories, remove.
Writing a file that exists keeps its permissions, and all places where it is hold the new content.

Who reads a pipe or a device that gives without end never comes to an end, so there is no content
then.  What is told here of reading such a thing means nothing.

## Main definitions

* `Files.read` — the content of a file.
* `Files.ReadEnds` — reading comes to an end.
* `Files.write` — a file with new content.
* `Files.makeDirectory`, `Files.makeDirectories` — one directory, and all that a path is missing.
* `Files.unlink`, `Files.remove` — without a file, and without a file or directory.
-/

namespace NameTables

namespace Files

/-- The permissions of a new file. -/
def usualMode : Nat := 0o644

/-- The permissions of a new directory. -/
def usualDirectoryMode : Nat := 0o755

/-- The content of the file that a path leads to, if reading comes to an end.  The device that swallows
all has nothing in it. -/
def read (fs : Files) (p : Path) : Except IoFault Bytes :=
  match fs.locate p with
  | .error fault => .error fault
  | .ok place =>
    match fs.node? place with
    | none => .error .notFound
    | some (.directory _) => .error .isDirectory
    | some (.file number) => .ok (fs.content number)
    | some (.device .terminal) => .error .noDevice
    | some _ => .ok []

/-- Who reads what the path leads to comes to an end: nothing there gives without end. -/
def ReadEnds (fs : Files) (p : Path) : Prop := ∀ node, fs.nodeAt? p = some node → ¬ node.isEndless

instance (fs : Files) (p : Path) : Decidable (fs.ReadEnds p) :=
  decidable_of_iff ((fs.nodeAt? p).all (!·.isEndless)) (by simp [Option.all_eq_true, ReadEnds])

/-- The store after the file at a path has got a new content; a missing file is made.  What is
written to a device leaves no trace. -/
def write (fs : Files) (p : Path) (content : Bytes) : Except IoFault Files :=
  match fs.locateNew p with
  | .error fault => .error fault
  | .ok place =>
    match fs.node? place with
    | some (.directory _) => .error .isDirectory
    | some (.file number) => .ok (fs.setContent number content)
    | some (.device .terminal) => .error .noDevice
    | some (.device .full) => if content.isEmpty then .ok fs else .error .noSpace
    | some _ => .ok fs
    | none => .ok (fs.addFile place content usualMode).2

/-- The store with one more directory. -/
def makeDirectory (fs : Files) (p : Path) : Except IoFault Files :=
  match fs.locateLast p with
  | .error fault => .error fault
  | .ok (place, named) =>
    if named && (fs.node? place).isNone then .ok (fs.put place (.directory usualDirectoryMode))
    else .error .alreadyExists

/-- The path, the path without its last part, and so on outwards. -/
def outward : (fuel : Nat) → Path → List Path
  | 0, p => [p]
  | fuel + 1, p =>
    match p.parent? with
    | some dir => p :: outward fuel dir
    | none => [p]

/-- Make the first of these directories, after those that follow it as far as they are missing;
each has the next one as its parent.  What has been made stays when a later one fails. -/
def makeInward (fs : Files) : List Path → Option IoFault × Files
  | [] => (some .notFound, fs)
  | p :: outer =>
    if p.text.isEmpty then (none, fs)
    else
      match fs.makeDirectory p with
      | .ok made => (none, made)
      -- only a missing parent is a reason to go outwards
      | .error .notFound =>
        match fs.makeInward outer with
        | (some fault, fs) => (some fault, fs)
        | (none, fs) =>
          match fs.makeDirectory p with
          | .ok made => (none, made)
          | .error fault => if fs.isDirectoryAt p then (none, fs) else (some fault, fs)
      -- a directory that is there already is as good as a new one
      | .error fault => if fs.isDirectoryAt p then (none, fs) else (some fault, fs)

/-- Make a directory and all directories its path is missing. -/
def makeDirectories (fs : Files) (p : Path) : Option IoFault × Files :=
  fs.makeInward (outward p.text.length p)

/-- The store without what a path leads to, unless that is a directory. -/
def unlink (fs : Files) (p : Path) : Files :=
  match fs.locateLink p with
  | .ok place => if fs.isDirectory place then fs else fs.erase place
  | .error _ => fs

/-- The store without what a path leads to, be it a directory. -/
def remove (fs : Files) (p : Path) : Files :=
  match fs.locateLink p with
  | .ok place => fs.erase place
  | .error _ => fs

end Files

end NameTables
