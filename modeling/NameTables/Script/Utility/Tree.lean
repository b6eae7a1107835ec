import NameTables.Script.Utility.Dates
import NameTables.Script.Utility.Mode
import NameTables.Script.Utility.Words

/-!
# Programs that make and remove

The programs that make and remove directories and files, and change what is known of them.

## Main definitions

* `makeDirectories`, `removeDirectories` — directories.
* `touch`, `changeMode` — what is known of files.
* `remove` — files, and directories with all that is in them.
-/

namespace NameTables.Script.Utility

open Shell (path)

/-- The path of a name in a directory. -/
def inside (dir name : Text) : Text :=
  if dir.getLast? = some '/' then dir ++ name else dir ++ '/' :: name

/-- The path without slashes at its end. -/
def withoutSlashes (p : Text) : Text :=
  let trimmed := (p.reverse.dropWhile (· = '/')).reverse
  if trimmed.isEmpty then p.take 1 else trimmed

/-- The paths that a path leads over, and the path itself: they end where a part of it does. -/
def leads (p : Text) : List Text :=
  ((List.range p.length).filter fun i =>
    p[i]? ≠ some '/' && (p[i + 1]?).all (· = '/')).map fun i => p.take (i + 1)

/-- Change the files. -/
def setFiles (files : Files) : Run Unit := modify fun s => { s with files }

/-! ### Directories -/

/-- Say that a directory has been made. -/
def tellMade (name : Text) : Run Unit := do
  Run.print ((← get).name ++ ": created directory ".toList ++ inShellQuotes name ++ ['\n'])

/-- Make one directory with permissions. -/
def makeDirectory (verbose : Bool) (mode : Nat) (name : Text) : Run Unit := do
  let s ← get
  match s.files.makeDirectory (path name) with
  | .ok files =>
    let files :=
      match files.locate (path name) with
      | .ok place => withMode files place mode
      | .error _ => files
    setFiles files
    if verbose then tellMade name
  | .error fault =>
    Run.fail ("cannot create directory ".toList ++ inCurlyQuotes name ++ ": ".toList
      ++ fault.reason)

/-- Make the directories that are missing on a path; the last one gets permissions. -/
def makePath (verbose : Bool) (mode : Nat) (name : Text) : Run Unit := do
  let all := leads name
  let mut broken := false
  for lead in all do
    if !broken then
      let s ← get
      let isLast := some lead = all.getLast?
      match s.files.nodeAt? (path lead) with
      | some (.directory _) => pure ()
      | some _ =>
        let fault : IoFault := if isLast then .alreadyExists else .notDirectory
        Run.fail ("cannot create directory ".toList
          ++ inCurlyQuotes (if isLast then name else lead) ++ ": ".toList ++ fault.reason)
        broken := true
      | none =>
        makeDirectory verbose (if isLast then mode else s.newMode 0o777) lead
        broken := !(← get).files.isDirectoryAt (path lead)

/-- Make directories, with `p` all that are missing on their paths. -/
def makeDirectories : Utility :=
  Usage.program ⟨"pvZ", "m", [("parents", 'p'), ("verbose", 'v'), ("mode", 'm')]⟩
    fun options names => do
      let s ← get
      let verbose := isGiven 'v' options
      let usual := s.newMode 0o777
      if names.isEmpty then modify (·.misuse "missing operand".toList)
      else
        match (wordOf? 'm' options).map fun word => (word, modeChanges? word) with
        | some (word, none) => Run.fail ("invalid mode ".toList ++ inCurlyQuotes word)
        | found =>
          let changes := (found.bind Prod.snd).getD []
          let mode := if changes.isEmpty then usual
            else changedMode true s.mask changes 0o777
          for name in names do
            if isGiven 'p' options && !name.isEmpty then makePath verbose mode name
            else makeDirectory verbose mode name

/-- Is nothing in the directory? -/
def isEmptyDirectory (fs : Files) (place : Place) : Bool := (fs.below place).isEmpty

/-- Why a directory cannot be removed, or its place. -/
def removablePlace (fs : Files) (name : Text) : Except IoFault Place := do
  let place ← fs.locateLink (path name)
  match fs.node? place with
  | none => throw .notFound
  | some (.directory _) =>
    if lastPart name [] = ['.'] then throw .invalid
    else if lastPart name [] = ['.', '.'] || !isEmptyDirectory fs place then throw .notEmpty
    else return place
  | some _ => throw .notDirectory

/-- Remove directories with nothing in them. -/
def removeDirectories : Utility :=
  Usage.program ⟨"pvi", "", [("parents", 'p'), ("verbose", 'v'),
    ("ignore-fail-on-non-empty", 'i')]⟩ fun options names => do
    if names.isEmpty then modify (·.misuse "missing operand".toList)
    else
      for name in names do
        let mut broken := false
        let all := if isGiven 'p' options then (leads name).reverse else [name]
        for p in all do
          if !broken then
            if isGiven 'v' options then
              let said := "removing directory, ".toList ++ inShellQuotes p
              Run.print ((← get).name ++ ": ".toList ++ said ++ ['\n'])
            match removablePlace (← get).files p with
            | .ok place => modify fun s => { s with files := s.files.erase place }
            | .error fault =>
              broken := true
              if !(isGiven 'i' options && fault = .notEmpty) then
                let what := if p = name then "failed to remove " else "failed to remove directory "
                Run.fail (what.toList ++ inShellQuotes p ++ ": ".toList ++ fault.reason)

/-! ### Files -/

/-- The files with another time of change for one of them. -/
def withTime (fs : Files) (number : Nat) (time : Int) : Files :=
  match fs.state? number with
  | some state => fs.setState number { state with changed := time }
  | none => fs

/-- Make files that are missing, and let others be as new. -/
def touch : Utility :=
  Usage.program ⟨"acmfh", "drt\x01", [("no-create", 'c'), ("date", 'd'), ("reference", 'r'),
    ("no-dereference", 'h'), ("time", '\x01')]⟩ fun options names => do
    let s ← get
    let reference := (wordOf? 'r' options).bind s.fileAt?
    let now := s.files.now
    let said := (wordOf? 'd' options).or (wordOf? 't' options)
    let told :=
      match wordOf? 'd' options, wordOf? 't' options with
      | some date, _ => dateIn? ((reference.map FileState.changed).getD now) date
      | none, some stamp => stampIn? now stamp
      | none, none => none
    let time := told.or (reference.map FileState.changed)
    match wordOf? 'r' options, reference with
    | some name, none =>
      Run.fail ("failed to get attributes of ".toList ++ inShellQuotes name
        ++ ": No such file or directory".toList)
    | _, _ =>
      if said.isSome && told.isNone then
        Run.fail ("invalid date format ".toList ++ inCurlyQuotes (said.getD []))
      else if names.isEmpty then modify (·.misuse "missing file operand".toList)
      else
        for name in names do
          let s ← get
          match s.nodeAt? name with
          | some (.file number) => setFiles (withTime s.files number (time.getD s.files.now))
          | some _ => pure ()
          | none =>
            if !isGiven 'c' options then
              match s.openPath .appending name with
              | .ok (_, s) =>
                set s
                match s.nodeAt? name, time with
                | some (.file number), some time => setFiles (withTime s.files number time)
                | _, _ => pure ()
              | .error .isDirectory =>
                Run.fail ("setting times of ".toList ++ inShellQuotes name ++ ": ".toList
                  ++ IoFault.notFound.reason)
              | .error fault =>
                Run.fail ("cannot touch ".toList ++ inShellQuotes name ++ ": ".toList
                  ++ fault.reason)

/-- Change the permissions of what is at a place, and say so if that is wanted. -/
def changeModeAt (options : List (Char × Text)) (changes : List ModeChange) (name : Text)
    (place : Place) : Run Unit := do
  let s ← get
  match s.files.node? place with
  | none | some (.link _) => return
  | some node =>
    let before := modeOf s.files node
    let mode := changedMode node.isDirectory s.mask changes before
    setFiles (withMode s.files place mode)
    let shown := fun mode => modeDigits 4 mode ++ " (".toList ++ modeLetters mode ++ [')']
    if mode ≠ before then
      if isGiven 'v' options || isGiven 'c' options then
        Run.print ("mode of ".toList ++ inShellQuotes name ++ " changed from ".toList
          ++ shown before ++ " to ".toList ++ shown mode ++ ['\n'])
    else if isGiven 'v' options then
      Run.print ("mode of ".toList ++ inShellQuotes name ++ " retained as ".toList
        ++ shown mode ++ ['\n'])

/-- The path of a place that names lead to from the place of another path. -/
def pathBelow (p : Text) (names : List Text) : Text := (names.map octets).foldl inside p

/-- Change permissions. -/
def changeMode : Utility := fun args => do
  -- a mode may begin with a hyphen
  let isMode := fun word : Text => match word with
    | '-' :: c :: _ => c ∈ "rwxXstugo".toList
    | _ => false
  let modes := (args.takeWhile (· ≠ ['-', '-'])).filter isMode
  let args := if modes.isEmpty then args else args.filter (!isMode ·)
  let usage : Usage := ⟨"Rvcf", "r", [("recursive", 'R'), ("verbose", 'v'), ("changes", 'c'),
    ("silent", 'f'), ("quiet", 'f'), ("reference", 'r')]⟩
  usage.program (fun options words => do
    let s ← get
    let reference := (wordOf? 'r' options).bind s.nodeAt?
    let told := match reference with
      | some node => [modeDigits 4 (modeOf s.files node)]
      | none => modes.take 1
    match told ++ words with
    | [] => modify (·.misuse "missing operand".toList)
    | [mode] => modify (·.misuse ("missing operand after ".toList ++ inCurlyQuotes mode))
    | mode :: names =>
      match modeChanges? mode with
      | none => modify (·.misuse ("invalid mode: ".toList ++ inCurlyQuotes mode))
      | some changes =>
        for name in names do
          let s ← get
          let refuse := fun fault : IoFault => do
            if !isGiven 'f' options then
              Run.fail ("cannot access ".toList ++ inShellQuotes name ++ ": ".toList
                ++ fault.reason)
            else modify (·.withStatus 1)
          match s.files.locate (path name) with
          | .error fault => refuse fault
          | .ok place =>
            match s.files.node? place, s.files.linkAt? (path name) with
            | none, some (.link _) =>
              Run.fail ("cannot operate on dangling symlink ".toList ++ inShellQuotes name)
            | none, _ => refuse .notFound
            | some _, _ =>
              changeModeAt options changes name place
              if isGiven 'R' options then
                for (names, _) in s.files.below place do
                  changeModeAt options changes (pathBelow name names) (names.reverse ++ place)) args

/-! ### Removing -/

/-- How things are removed. -/
structure Removal where
  /-- Are directories removed with all that is in them? -/
  deep : Bool
  /-- Are empty directories removed? -/
  empty : Bool
  /-- Is what is missing no failure? -/
  force : Bool
  /-- Is everything asked for? -/
  asks : Bool
  /-- Is everything told that is removed? -/
  verbose : Bool

/-- Read a line of an answer, and tell whether it is a yes. -/
def isAgreed (question : Text) : Run Bool := do
  modify fun s => s.write 2 (s.name ++ ": ".toList ++ question ++ "? ".toList)
  match (← get).channel? 0 with
  | none => return false
  | some id =>
    match ← Run.readFrom id 65536 Run.readLimit with
    | .error _ => return false
    | .ok text =>
      let (line, rest, _) := (text.takeWhile (· ≠ '\n'), (text.dropWhile (· ≠ '\n')).drop 1, 0)
      modify fun s => { s with toScene := s.toScene.giveBack id rest }
      return line.head?.any (· ∈ ['y', 'Y'])

namespace Removal

/-- The question whether something is to be removed. -/
def question (fs : Files) (node : Node) (name : Text) : Text :=
  let kind :=
    match node with
    | .directory _ => "directory"
    | .file number => if (fs.content number).isEmpty then "regular empty file" else "regular file"
    | .link _ => "symbolic link"
    | .device _ => "character special file"
    | .pipe _ => "fifo"
  "remove ".toList ++ kind.toList ++ ' ' :: inShellQuotes name

/-- Remove what is at a place, when everything in it is gone already. -/
def removeAt (r : Removal) (place : Place) (node : Node) (name : Text) : Run Bool := do
  let s ← get
  let agreed ← if r.asks then isAgreed (question s.files node name) else pure true
  if agreed then
    modify fun s => { s with files := s.files.erase place }
    if r.verbose then
      Run.print ((if node.isDirectory then "removed directory ".toList else "removed ".toList)
        ++ inShellQuotes name ++ ['\n'])
  return agreed

/-- Remove what is at a place and everything below it, down to a depth. -/
def removeAll (r : Removal) : (depth : Nat) → Place → Node → Text → Run Bool
  | 0, _, _, _ => return false
  | depth + 1, place, node, name => do
    let s ← get
    match node with
    | .directory _ =>
      let inside := s.files.entries place
      if !r.deep && (!r.empty || !inside.isEmpty) then
        let fault : IoFault := if r.empty then .notEmpty else .isDirectory
        Run.fail ("cannot remove ".toList ++ inShellQuotes name ++ ": ".toList ++ fault.reason)
        return false
      else
        let entered ← if r.asks && !inside.isEmpty then
            isAgreed ("descend into directory ".toList ++ inShellQuotes name)
          else pure true
        if !entered then return false
        let mut gone := true
        for (child, node) in inside do
          if !(← removeAll r depth (child :: place) node (Utility.inside name (octets child))) then
            gone := false
        if gone then removeAt r place node name else return false
    | node => removeAt r place node name

/-- More than the depth of any place. -/
def depthLimit : Nat := 1000

/-- Remove what a path leads to. -/
def removePath (r : Removal) (name : Text) : Run Unit := do
  let s ← get
  let refuse := fun fault : IoFault =>
    Run.fail ("cannot remove ".toList ++ inShellQuotes name ++ ": ".toList ++ fault.reason)
  let last := lastPart name []
  match s.files.locateLink (path name) with
  | .error fault =>
    if !(r.force && (fault = .notFound || fault = .notDirectory)) then refuse fault
  | .ok place =>
    match s.files.node? place with
    | none => if !r.force then refuse .notFound
    | some node =>
      if node.isDirectory && (r.deep || r.empty) && (last = ['.'] || last = ['.', '.']) then
        Run.fail ("refusing to remove '.' or '..' directory: skipping ".toList
          ++ inShellQuotes name)
      else if node.isDirectory && r.deep && place.isEmpty then
        Run.fail "it is dangerous to operate recursively on '/'".toList
        Run.say "use --no-preserve-root to override this failsafe".toList
      else if r.verbose || r.asks || !r.deep || !node.isDirectory then
        let _ ← removeAll r depthLimit place node name
      else modify fun s => { s with files := s.files.erase place }

end Removal

/-- Remove files, with `r` also directories. -/
def remove : Utility :=
  Usage.program ⟨"frRivdI", "", [("force", 'f'), ("recursive", 'r'), ("verbose", 'v'),
    ("dir", 'd'), ("interactive", 'i'), ("one-file-system", 'I')]⟩ fun options names => do
    let last := ((options.map Prod.fst).filter (· ∈ ['f', 'i'])).getLast?
    let r : Removal :=
      ⟨isGiven 'r' options || isGiven 'R' options, isGiven 'd' options, last = some 'f',
        last = some 'i', isGiven 'v' options⟩
    if names.isEmpty && !r.force then modify (·.misuse "missing operand".toList)
    else
      for name in names do
        r.removePath name

/-- Remove one name of a file. -/
def unlink : Utility :=
  Usage.program ⟨"", "", []⟩ fun _ names => do
    match names with
    | [] => modify (·.misuse "missing operand".toList)
    | [name] =>
      let s ← get
      let refuse := fun fault : IoFault =>
        Run.fail ("cannot unlink ".toList ++ inShellQuotes name ++ ": ".toList ++ fault.reason)
      match s.files.locateLink (path name) with
      | .error fault => refuse fault
      | .ok place =>
        match s.files.node? place with
        | none => refuse .notFound
        | some (.directory _) => refuse .isDirectory
        | some _ => setFiles (s.files.erase place)
    | _ :: extra :: _ => modify (·.misuse ("extra operand ".toList ++ inCurlyQuotes extra))

end NameTables.Script.Utility
