import NameTables.Script.Utility.Copying

/-!
# What is known of files

Sizes, times, permissions and kinds of what is in a tree, and the program that tells them by a format.

## Main definitions

* `sizeOf`, `blocksOf`, `namesOf`, `timeOf` — what is known of something.
* `Listed` — something with its name and place.
* `stateText` — a format filled with what is known.
* `tellState` — the program.
-/

namespace NameTables.Script.Utility

open Shell (path)

/-- How many octets something takes. -/
def sizeOf (fs : Files) (node : Node) : Nat :=
  match node with
  | .directory _ => 4096
  | .file number => (fs.content number).length
  | .link target => (octets target).length
  | _ => 0

/-- At how many places something is: a directory is in itself, too, and in those it holds. -/
def namesOf (fs : Files) (place : Place) (node : Node) : Nat :=
  match node with
  | .directory _ => 2 + ((fs.entries place).filter (·.2.isDirectory)).length
  | .file number => (fs.nodes.filter (·.2 = .file number)).length
  | _ => 1

/-- When something has changed. -/
def timeOf (fs : Files) (node : Node) : Int :=
  match node with
  | .file number => ((fs.state? number).map FileState.changed).getD fs.now
  | _ => fs.now

/-- The permissions of something with its kind, in letters. -/
def fullLetters (fs : Files) (node : Node) : Text := kindLetter node :: modeLetters (modeOf fs node)

/-- The number of a file; what is no file has none of its own. -/
def numberOf : Node → Nat
  | .file number => number
  | _ => 1

/-- How many units of 1024 octets something takes. -/
def blocksOf (fs : Files) (node : Node) : Nat :=
  match node with
  | .directory _ => 4
  | .file number => ((fs.content number).length + 4095) / 4096 * 4
  | _ => 0

/-- A name that is listed. -/
structure Listed where
  /-- The name. -/
  name : Text
  /-- Where it leads. -/
  place : Place
  /-- What is there. -/
  node : Node

/-- What something is, in words. -/
def kindText (fs : Files) (node : Node) : Text :=
  String.toList (match node with
    | .directory _ => "directory"
    | .file number => if (fs.content number).isEmpty then "regular empty file" else "regular file"
    | .link _ => "symbolic link"
    | .device _ => "character special file"
    | .pipe _ => "fifo")

/-- What a letter in a format stands for. -/
def statePart (fs : Files) (t : Listed) (c : Char) : Text :=
  let seconds := (timeOf fs t.node).fdiv Duration.perSecond
  let kindBits : Nat :=
    match t.node with
    | .directory _ => 0o040000
    | .file _ => 0o100000
    | .link _ => 0o120000
    | .device _ => 0o020000
    | .pipe _ => 0o010000
  let date := dateText (timeOf fs t.node) "%F %T.%N %z".toList
  match c with
  | 'n' => t.name
  | 'N' => inShellQuotes t.name ++ match t.node with
    | .link target => " -> ".toList ++ inShellQuotes (octets target)
    | _ => []
  | 's' => Text.ofNat (sizeOf fs t.node)
  | 'F' => kindText fs t.node
  | 'a' => modeDigits 1 (modeOf fs t.node)
  | 'A' => fullLetters fs t.node
  | 'f' => Nat.toDigits 16 (kindBits + modeOf fs t.node)
  | 'h' => Text.ofNat (namesOf fs t.place t.node)
  | 'u' => ['0']
  | 'g' => ['0']
  | 'U' => "root".toList
  | 'G' => "root".toList
  | 'b' => Text.ofNat (2 * blocksOf fs t.node)
  | 'B' => "512".toList
  | 'o' => "4096".toList
  | 't' => ['0']
  | 'T' => ['0']
  | 'i' => Text.ofNat (numberOf t.node)
  | 'X' => Text.ofInt seconds
  | 'Y' => Text.ofInt seconds
  | 'Z' => Text.ofInt seconds
  | 'x' => date
  | 'y' => date
  | 'z' => date
  | 'w' => ['-']
  | 'W' => ['0']
  | '%' => ['%']
  | _ => ['?']

/-- A format filled with what is known of something; escapes have a meaning if `escapes` says so. -/
def stateText (fs : Files) (t : Listed) (escapes : Bool) : (fuel : Nat) → Text → Text
  | 0, _ => []
  | _, [] => []
  | fuel + 1, '%' :: rest =>
    let (l, rest, _) := layoutOf rest []
    match rest with
    | [] => ['%']
    | c :: rest => l.text (statePart fs t c) ++ stateText fs t escapes fuel rest
  | fuel + 1, '\\' :: rest =>
    if escapes then
      match escapeLead rest with
      | some (found, n) => found ++ stateText fs t escapes fuel (rest.drop n)
      | none => []
    else '\\' :: stateText fs t escapes fuel rest
  | fuel + 1, c :: rest => c :: stateText fs t escapes fuel rest

/-- What is told of something without any format. -/
def usualStateFormat : Text :=
  ("  File: %N\n  Size: %-10s\tBlocks: %-10b IO Block: %-6o %F\nDevice: 0,1\tInode: %-11i Links: %h\n"
    ++ "Access: (%04a/%10A)  Uid: (%5u/%8U)   Gid: (%5g/%8G)\nAccess: %x\nModify: %y\nChange: %z\n"
    ++ " Birth: -").toList

/-- Tell what is known of files. -/
def tellState : Utility :=
  Usage.program ⟨"Lft", "cp", [("dereference", 'L'), ("format", 'c'), ("printf", 'p'),
    ("terse", 't'), ("file-system", 'f')]⟩ fun options names => do
    let printed := wordOf? 'p' options
    let format := (printed.or (wordOf? 'c' options)).getD usualStateFormat
    let stop := if printed.isSome then [] else ['\n']
    if names.isEmpty then modify (·.misuse "missing operand".toList)
    else
      for name in names do
        let s ← get
        let refuse := fun fault : IoFault =>
          Run.fail ("cannot statx ".toList ++ inShellQuotes name ++ ": ".toList ++ fault.reason)
        match s.files.locateBy (isGiven 'L' options) (path name) with
        | .error fault => refuse fault
        | .ok place =>
          match s.files.node? place with
          | none => refuse .notFound
          | some node =>
            let t : Listed := ⟨name, place, node⟩
            Run.print (stateText s.files t printed.isSome (format.length + 1) format ++ stop)

end NameTables.Script.Utility
