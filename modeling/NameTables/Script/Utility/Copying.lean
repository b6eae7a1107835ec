import NameTables.Script.Utility.Tree

/-!
# Programs that copy, move and link

What all of them have in common is where things are put: at a path of their own, or into a directory.

## Main definitions

* `Aim`, `aimOf` — where things are put.
* `copy`, `move`, `link` — the programs.
-/

namespace NameTables.Script.Utility

open Shell (path)

/-! ### Where things are put -/

/-- Where something is to be put. -/
inductive Aim
  /-- Into a directory. -/
  | directory (dir : Text)
  /-- At a path. -/
  | place (p : Text)

/-- What is wrong with the words of a command. -/
inductive AimFault
  /-- There are not enough of them, as is said. -/
  | missing (said : Text)
  /-- One of them does not lead where it should, as is said. -/
  | refused (said : Text)

/-- The last part of a path, or all of it if that is only slashes. -/
def lastName (p : Text) : Text := lastPart p []

/-- What is to be put somewhere, and where to; or what is wrong with the words. -/
def aimOf (options : List (Char × Text)) (names : List Text) (s : Shell) :
    Except AimFault (List Text × Aim) :=
  let faultOf := fun p : Text =>
    match s.files.locate (path p) with
    | .error fault => fault.reason
    | .ok place => ((s.files.node? place).map fun _ => IoFault.notDirectory.reason).getD
        IoFault.notFound.reason
  let isDirectory := fun p : Text => s.files.isDirectoryAt (path p)
  match wordOf? 't' options, names.reverse with
  | some _, [] => .error (.missing "missing file operand".toList)
  | some target, _ =>
    if isDirectory target then .ok (names, .directory target)
    else .error (.refused ("target directory ".toList ++ inShellQuotes target ++ ": ".toList
      ++ faultOf target))
  | none, [] => .error (.missing "missing file operand".toList)
  | none, [name] =>
    .error (.missing ("missing destination file operand after ".toList ++ inShellQuotes name))
  | none, [target, source] =>
    if isDirectory target && !isGiven 'T' options then .ok ([source], .directory target)
    else .ok ([source], .place target)
  | none, target :: sources =>
    if isGiven 'T' options then
      .error (.missing ("extra operand ".toList ++ inShellQuotes ((names[2]?).getD [])))
    else if isDirectory target then .ok (sources.reverse, .directory target)
    else .error (.refused ("target ".toList ++ inShellQuotes target ++ ": ".toList
      ++ faultOf target))

/-- Complain about the words of a command. -/
def AimFault.complain : AimFault → Run Unit
  | .missing said => modify (·.misuse said)
  | .refused said => Run.fail said

/-- The path that a source is put at. -/
def Aim.pathFor (aim : Aim) (source : Text) : Text :=
  match aim with
  | .directory dir => inside dir (lastName source)
  | .place p => p

/-- The place where something is to be put, with a link at its end not followed. -/
def newPlace (fs : Files) (p : Text) : Except IoFault Place :=
  (fs.locateLast (path p)).map Prod.fst

/-- Do both paths lead to one thing? -/
def areSame (fs : Files) (source target : Place) : Bool :=
  source = target ||
    match fs.node? source, fs.node? target with
    | some (.file a), some (.file b) => a = b
    | _, _ => false

/-- Two paths with an arrow between them. -/
def arrow (source target : Text) : Text :=
  inShellQuotes source ++ " -> ".toList ++ inShellQuotes target

/-! ### Copying -/

/-- How things are copied. -/
structure Copying where
  /-- Are directories copied with all that is in them? -/
  deep : Bool
  /-- Are permissions and times kept? -/
  keeps : Bool
  /-- Are links followed, even inside of directories? -/
  follows : Bool
  /-- Is nothing replaced? -/
  spares : Bool
  /-- Is only replaced what is older? -/
  renews : Bool
  /-- Is everything told that is copied? -/
  verbose : Bool
  /-- Is what stands in the way removed first? -/
  removes : Bool
  /-- Is a link made instead of a copy, a symbolic one or not? -/
  links : Option Bool

namespace Copying

/-- Why nothing can be made at a path. -/
def makingFault (fault : IoFault) : Text :=
  match fault with
  | .isDirectory => IoFault.notDirectory.reason
  | fault => fault.reason

/-- Say that something has been copied. -/
def tell (c : Copying) (source target : Text) : Run Unit := do
  if c.verbose then Run.print (arrow source target ++ ['\n'])

/-- Copy the content of what is not a directory to a path. -/
def copyContent (c : Copying) (place : Place) (source target : Text) : Run Unit := do
  let s ← get
  let refuse := fun fault : IoFault =>
    Run.fail ("cannot create regular file ".toList ++ inShellQuotes target ++ ": ".toList
      ++ makingFault fault)
  let state := s.files.fileAt? place
  let isNew := (s.files.nodeAt? (path target)).isNone
  match s.openPath .writing target with
  | .error fault => refuse fault
  | .ok (id, s) =>
    let descriptor := s.freeDescriptor
    set (s.setChannel descriptor id)
    c.tell source target
    match ← Run.withInput (if source = ['-'] then "./-".toList else source) fun from_ =>
        Run.eachPiece from_ () fun _ text => do
          match (← get).put descriptor text with
          | (none, s) => set s
          | (some fault, s) =>
            set s
            Run.fail ("error writing ".toList ++ inShellQuotes target ++ ": ".toList
              ++ fault.reason) with
    | .ok _ => pure ()
    | .error fault =>
      Run.fail ("cannot open ".toList ++ inShellQuotes source ++ " for reading: ".toList
        ++ fault.reason)
    modify (·.close descriptor)
    modify fun s =>
      match s.files.locate (path target), state with
      | .ok there, some state =>
        let files :=
          if c.keeps then withMode s.files there state.mode
          else if isNew then withMode s.files there (s.newMode (state.mode % 0o1000))
          else s.files
        match files.node? there with
        | some (.file number) =>
          if c.keeps then
            match files.state? number with
            | some copied =>
              { s with files := files.setState number { copied with changed := state.changed } }
            | none => { s with files }
          else { s with files }
        | _ => { s with files }
      | _, _ => s

/-- Copy what is no directory to a path. -/
def copyPlain (c : Copying) (place : Place) (node : Node) (source target : Text) : Run Unit := do
  let s ← get
  let there := newPlace s.files target
  let old := there.toOption.bind s.files.node?
  let sameNode := (s.files.locate (path target)).toOption.any (areSame s.files place)
  let refuse := fun (what : String) (fault : IoFault) =>
    Run.fail ("cannot create ".toList ++ what.toList ++ ' ' :: inShellQuotes target
      ++ ": ".toList ++ makingFault fault)
  if (s.files.nodeAt? (path target)).any Node.isDirectory then
    Run.fail ("cannot overwrite directory ".toList ++ inShellQuotes target
      ++ " with non-directory".toList)
  else if c.spares && old.isSome then return
  else if sameNode && c.links.isNone && !(c.removes && there.toOption ≠ some place) then
    Run.fail (inShellQuotes source ++ " and ".toList ++ inShellQuotes target
      ++ " are the same file".toList)
  else
    let isOlder :=
      match s.files.fileAt? place, s.fileAt? target with
      | some a, some b => a.changed ≤ b.changed
      | _, _ => false
    if c.renews && isOlder then return
    let remove := fun s : Shell =>
      match there with
      | .ok there => { s with files := s.files.erase there }
      | .error _ => s
    match c.links, node, there with
    | some _, _, .error fault => refuse "symbolic link" fault
    | some symbolic, _, .ok there =>
      if old.isSome && !c.removes then
        Run.fail ("cannot create ".toList ++ (if symbolic then "symbolic" else "hard").toList
          ++ " link ".toList ++ inShellQuotes target ++ (if symbolic then [] else
            " to ".toList ++ inShellQuotes source) ++ ": File exists".toList)
      else
        modify remove
        modify fun s => { s with
          files := s.files.put there (if symbolic then .link (ofOctets source) else node) }
        c.tell source target
    | none, .link text, .ok there =>
      modify remove
      modify fun s => { s with files := s.files.put there (.link text) }
      c.tell source target
    | none, .link _, .error fault => refuse "symbolic link" fault
    | none, _, _ =>
      if c.removes && old.isSome then modify remove
      match old, s.files.nodeAt? (path target) with
      | some (.link _), none =>
        if c.removes then c.copyContent place source target
        else
          Run.fail ("not writing through dangling symlink ".toList ++ inShellQuotes target)
      | _, _ => c.copyContent place source target

/-- Copy what a path leads to, down to a depth. -/
def copyPath (c : Copying) : (depth : Nat) → (follow : Bool) → (source target : Text) → Run Unit
  | 0, _, _, _ => return
  | depth + 1, follow, source, target => do
    let s ← get
    let missing := fun fault : IoFault =>
      Run.fail ("cannot stat ".toList ++ inShellQuotes source ++ ": ".toList ++ fault.reason)
    match s.files.locateBy follow (path source) with
    | .error fault => missing fault
    | .ok place =>
      match s.files.node? place with
      | none => missing .notFound
      | some (.directory mode) =>
        if !c.deep then
          Run.fail ("-r not specified; omitting directory ".toList ++ inShellQuotes source)
        else
          let children := s.files.entries place
          match s.files.nodeAt? (path target), newPlace s.files target with
          | some (.directory _), .ok there =>
            if place = there then
              Run.fail (inShellQuotes source ++ " and ".toList ++ inShellQuotes target
                ++ " are the same file".toList)
            else copyChildren depth source target children
          | some (.directory _), .error _ => copyChildren depth source target children
          | some _, _ =>
            Run.fail ("cannot overwrite non-directory ".toList ++ inShellQuotes target
              ++ " with directory ".toList ++ inShellQuotes source)
          | none, .error fault =>
            Run.fail ("cannot create directory ".toList ++ inShellQuotes target ++ ": ".toList
              ++ fault.reason)
          | none, .ok there =>
            modify fun s => { s with
              files := s.files.put there (.directory (if c.keeps then mode else s.newMode mode)) }
            if place.isSuffixOf there then
              Run.fail ("cannot copy a directory, ".toList ++ inShellQuotes source
                ++ ", into itself, ".toList ++ inShellQuotes target)
            else
              c.tell source target
              copyChildren depth source target children
      | some node => c.copyPlain place node source target
where
  /-- Copy what is in a directory into another one. -/
  copyChildren (depth : Nat) (source target : Text) (children : List (Text × Node)) :
      Run Unit := do
    for (child, _) in children do
      let name := octets child
      c.copyPath depth c.follows (inside source name) (inside target name)

/-- More than the depth of any place. -/
def depthLimit : Nat := 1000

end Copying

/-- Copy files, with `r` also directories. -/
def copy : Utility :=
  Usage.program ⟨"rRafipvnudTdLHPlsxbD", "tA", [("recursive", 'r'), ("force", 'f'), ("archive", 'a'),
    ("interactive", 'i'), ("verbose", 'v'), ("no-clobber", 'n'), ("update", 'U'),
    ("target-directory", 't'), ("no-target-directory", 'T'), ("dereference", 'L'),
    ("no-dereference", 'P'), ("link", 'l'), ("symbolic-link", 's'), ("preserve", 'W'),
    ("parents", 'D'), ("remove-destination", 'X')]⟩ fun options names => do
    let given := fun letters : String => letters.toList.any (isGiven · options)
    match aimOf options names (← get) with
    | .error fault => fault.complain
    | .ok (sources, aim) =>
      let deep := given "rRa"
      let follows := given "L"
      let keepsLinks := !follows && (deep || given "dP")
      let c : Copying :=
        ⟨deep, given "paW", follows, given "n", given "uU", given "v", given "X",
          if given "l" then some false else if given "s" then some true else none⟩
      if c.spares then
        Run.say ("warning: behavior of -n is non-portable and may change in future; ".toList
          ++ "use --update=none instead".toList)
      for source in sources do
        let target := aim.pathFor source
        let s ← get
        let agreed ←
          if given "i" && (s.files.nodeAt? (path target)).isSome then
            isAgreed ("overwrite ".toList ++ inShellQuotes target)
          else pure true
        if agreed then
          c.copyPath Copying.depthLimit (!keepsLinks || given "H") source target
        else modify (·.withStatus 1)

/-! ### Moving -/

/-- The files after what is at a place, with all that is below it, has got another one. -/
def movedTo (fs : Files) (source target : Place) : Files :=
  let fs := fs.erase target
  { fs with
    nodes := fs.nodes.map fun (place, node) =>
      if source.isSuffixOf place then (place.take (place.length - source.length) ++ target, node)
      else (place, node) }

/-- Move what a path leads to, and tell whether that was done. -/
def movePath (source target : Text) : Run Bool := do
  let s ← get
  let refuse := fun said : Text => do
    Run.fail said
    return false
  let cannot := fun (fault : IoFault) =>
    refuse ("cannot move ".toList ++ inShellQuotes source ++ " to ".toList
      ++ inShellQuotes target ++ ": ".toList ++ fault.reason)
  let missing := fun (fault : IoFault) =>
    refuse ("cannot stat ".toList ++ inShellQuotes source ++ ": ".toList ++ fault.reason)
  match s.files.locateLink (path source) with
  | .error fault => missing fault
  | .ok place =>
    match s.files.node? place, newPlace s.files target with
    | none, _ => missing .notFound
    | some _, .error fault => cannot fault
    | some node, .ok there =>
      match s.files.node? there with
      | none =>
        if place.isSuffixOf there && node.isDirectory then
          refuse ("cannot move ".toList ++ inShellQuotes source
            ++ " to a subdirectory of itself, ".toList ++ inShellQuotes target)
        else if !node.isDirectory && Files.endsInSlash (path target) then cannot .notDirectory
        else
          setFiles (movedTo s.files place there)
          return true
      | some old =>
        if place = there then
          refuse (inShellQuotes source ++ " and ".toList ++ inShellQuotes target
            ++ " are the same file".toList)
        else if old.isDirectory && !node.isDirectory then
          refuse ("cannot overwrite directory ".toList ++ inShellQuotes target
            ++ " with non-directory".toList)
        else if !old.isDirectory && node.isDirectory then
          refuse ("cannot overwrite non-directory ".toList ++ inShellQuotes target
            ++ " with directory ".toList ++ inShellQuotes source)
        else if place.isSuffixOf there then
          refuse ("cannot move ".toList ++ inShellQuotes source
            ++ " to a subdirectory of itself, ".toList ++ inShellQuotes target)
        else if old.isDirectory && !isEmptyDirectory s.files there then
          refuse ("cannot overwrite ".toList ++ inShellQuotes target ++ ": ".toList
            ++ IoFault.notEmpty.reason)
        else
          setFiles (movedTo s.files place there)
          return true

/-- Move files and directories. -/
def move : Utility :=
  Usage.program ⟨"finvuTb", "t", [("force", 'f'), ("verbose", 'v'), ("interactive", 'i'),
    ("no-clobber", 'n'), ("update", 'U'), ("target-directory", 't'),
    ("no-target-directory", 'T')]⟩ fun options names => do
    match aimOf options names (← get) with
    | .error fault => fault.complain
    | .ok (sources, aim) =>
      let last := ((options.map Prod.fst).filter (· ∈ ['f', 'i', 'n'])).getLast?
      for source in sources do
        let target := aim.pathFor source
        let s ← get
        let exists_ := (s.files.linkAt? (path target)).isSome
        let isOlder :=
          match s.fileAt? source, s.fileAt? target with
          | some a, some b => a.changed ≤ b.changed
          | _, _ => false
        if exists_ && last = some 'n' then
          Run.fail ("not replacing ".toList ++ inShellQuotes target)
        else if (isGiven 'u' options || isGiven 'U' options) && isOlder then pure ()
        else
          let agreed ←
            if exists_ && last = some 'i' then
              isAgreed ("overwrite ".toList ++ inShellQuotes target)
            else pure true
          if agreed then
            if (← movePath source target) && isGiven 'v' options then
              Run.print ("renamed ".toList ++ arrow source target ++ ['\n'])

/-! ### Links -/

/-- Make a link at a path.  What is there is replaced if that is `forced`, which may be decided by
someone who is asked. -/
def linkPath (symbolic : Bool) (forced : Option Bool) (verbose : Bool) (source target : Text) :
    Run Unit := do
  let s ← get
  let kind := if symbolic then "symbolic" else "hard"
  let refuse := fun (fault : IoFault) =>
    Run.fail ("failed to create ".toList ++ kind.toList ++ " link ".toList
      ++ inShellQuotes target ++ (if !symbolic && fault ≠ .alreadyExists then
        " => ".toList ++ inShellQuotes source else []) ++ ": ".toList ++ fault.reason)
  let node : Except (Run Unit) Node :=
    if symbolic then .ok (.link (ofOctets source))
    else
      match s.files.locateLink (path source) with
      | .error fault => .error (Run.fail ("failed to access ".toList ++ inShellQuotes source
          ++ ": ".toList ++ fault.reason))
      | .ok place =>
        match s.files.node? place with
        | none => .error (Run.fail ("failed to access ".toList ++ inShellQuotes source
            ++ ": ".toList ++ IoFault.notFound.reason))
        | some (.directory _) => .error (Run.fail (asShellWord source
            ++ ": hard link not allowed for directory".toList))
        | some node => .ok node
  match node, newPlace s.files target with
  | .error complain, _ => complain
  | .ok _, .error fault => refuse fault
  | .ok node, .ok there =>
    let isSame := (s.files.locateBy symbolic (path source)).toOption = some there
    match s.files.node? there, forced with
    | none, _ => make node there
    | some _, some false => refuse .alreadyExists
    | some (.directory _), _ =>
      Run.fail (asShellWord target ++ ": cannot overwrite directory".toList)
    | some _, _ =>
      if isSame then
        Run.fail (inShellQuotes source ++ " and ".toList ++ inShellQuotes target
          ++ " are the same file".toList)
      else if ← (if forced.isSome then pure true
          else isAgreed ("replace ".toList ++ inShellQuotes target)) then
        make node there
      else modify (·.withStatus 1)
where
  /-- Put the link at its place. -/
  make (node : Node) (there : Place) : Run Unit := do
    modify fun s => { s with files := (s.files.erase there).put there node }
    if verbose then
      let sign := if symbolic then " -> " else " => "
      Run.print (inShellQuotes target ++ sign.toList ++ inShellQuotes source ++ ['\n'])

/-- A path from a directory to what another path leads to. -/
def relativePath (fs : Files) (dir source : Text) : Text :=
  let placeOf := fun p : Text => ((fs.locate (path p)).toOption.getD []).reverse.map octets
  let (base, goal) := (placeOf dir, placeOf source)
  let common := ((base.zip goal).takeWhile fun (a, b) => a = b).length
  let parts := List.replicate (base.length - common) "..".toList ++ goal.drop common
  if parts.isEmpty then ['.'] else Text.join ['/'] parts

/-- Make links. -/
def link : Utility :=
  Usage.program ⟨"sfnvTirLPb", "t", [("symbolic", 's'), ("force", 'f'), ("no-dereference", 'n'),
    ("verbose", 'v'), ("no-target-directory", 'T'), ("relative", 'r'),
    ("target-directory", 't'), ("interactive", 'i')]⟩ fun options names => do
    let s ← get
    let given := fun c => isGiven c options
    let forced :=
      match (options.filter fun o => o.1 ∈ ['f', 'i']).getLast? with
      | some (letter, _) => if letter = 'f' then some true else none
      | none => some false
    let make := fun (source target : Text) => do
      let files := (← get).files
      let source := if given 'r' then relativePath files (leadingPart target) source else source
      linkPath (given 's') forced (given 'v') source target
    let isLink := fun p : Text =>
      match s.files.linkAt? (path p) with | some (.link _) => true | _ => false
    let options := if given 'n' && (names.getLast?.any isLink) then ('T', []) :: options else options
    match wordOf? 't' options, names with
    | none, [] => modify (·.misuse "missing file operand".toList)
    | none, [name] =>
      if isGiven 'T' options then
        modify (·.misuse ("missing destination file operand after ".toList ++ inShellQuotes name))
      else make name (inside ['.'] (lastName name))
    | _, _ =>
      match aimOf options names s with
      | .error fault => fault.complain
      | .ok (sources, aim) =>
        for source in sources do
          make source (aim.pathFor source)

end NameTables.Script.Utility
