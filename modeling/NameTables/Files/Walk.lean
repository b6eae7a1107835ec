import NameTables.Files.Basic

/-!
# From paths to places

A path is walked segment by segment from the root or from the current directory.  Every segment,
`.` and `..` too, needs a directory to stand in, so a path through a file or through nothing leads
nowhere.  A link on the way is followed, and one at the end too if that is wanted; there is a limit
to how many links are followed on one walk.  What is at the end of a walk need not exist.

## Main definitions

* `Files.enter`, `Files.walkUpTo`, `Files.walk` — one segment, those up to a link, and all of them.
* `Files.locate` — the place of a path that is to be looked at.
* `Files.locateNew` — the place of a path that is to be written.
-/

namespace NameTables

namespace Files

/-- Take one segment from a place, which has to be a directory. -/
def enter (fs : Files) (place : Place) (segment : Text) : Except IoFault Place :=
  match fs.node? place with
  | none => .error .notFound
  | some (.directory _) =>
    if segment = ['.'] then .ok place
    else if segment = ['.', '.'] then .ok place.tail
    else .ok (segment :: place)
  | some _ => .error .notDirectory

/-- Does the path end in a slash? -/
def endsInSlash (p : Path) : Bool := p.text.getLast? = some '/'

/-- The segments of a path.  A slash at the end asks for a directory there, as a segment `.`
does. -/
def segmentsOf (p : Path) : List Text := p.segments ++ if endsInSlash p then [['.']] else []

/-- Take segments from a place up to a link that is to be followed: `follow` goes on from there,
with the segments of the link's path and those that are left.  A link at the end is only followed
if `toEnd` says so. -/
def walkUpTo (fs : Files) (toEnd : Bool) (follow : Place → List Text → Except IoFault Place) :
    Place → List Text → Except IoFault Place
  | place, [] => .ok place
  | place, segment :: rest =>
    match fs.enter place segment with
    | .error fault => .error fault
    | .ok next =>
      match fs.node? next with
      | some (.link target) =>
        if toEnd || !rest.isEmpty then
          let path : Path := ⟨target⟩
          follow (if path.isAbsolute then [] else next.tail) (segmentsOf path ++ rest)
        else .ok next
      | _ => fs.walkUpTo toEnd follow next rest

/-- Take segments from a place, and follow the links on the way, of which there may be so many. -/
def walk (fs : Files) (toEnd : Bool) : (links : Nat) → Place → List Text → Except IoFault Place
  | 0 => fs.walkUpTo toEnd fun _ _ => .error .tooManyLinks
  | links + 1 => fs.walkUpTo toEnd (fs.walk toEnd links)

/-- How many links are followed on a walk. -/
def linkLimit : Nat := 40

/-- Where the walk along a path begins. -/
def origin (fs : Files) (p : Path) : Place := if p.isAbsolute then [] else fs.here

/-- Why no path of this spelling leads anywhere. -/
def spellingFault? (p : Path) : Option IoFault :=
  if p.text.isEmpty then some .notFound
  else if '\x00' ∈ p.text then some .nulInPath
  else none

/-- The place of a path that is to be looked at, with a link at its end followed or not. -/
def locateBy (fs : Files) (toEnd : Bool) (p : Path) : Except IoFault Place :=
  match spellingFault? p with
  | some fault => .error fault
  | none => fs.walk toEnd linkLimit (fs.origin p) (segmentsOf p)

/-- The place of a path that is to be looked at. -/
def locate (fs : Files) (p : Path) : Except IoFault Place := fs.locateBy true p

/-- The place of a path that leads to a link itself, not to what the link leads to. -/
def locateLink (fs : Files) (p : Path) : Except IoFault Place := fs.locateBy false p

/-- The place that a path's last segment makes in its directory, and whether that segment is a
name of its own and not `.`, `..` or missing. -/
def locateLast (fs : Files) (p : Path) : Except IoFault (Place × Bool) :=
  match spellingFault? p with
  | some fault => .error fault
  | none =>
    match p.segments.reverse with
    | [] => .ok ([], false)
    | last :: before =>
      match fs.walk true linkLimit (fs.origin p) before.reverse with
      | .error fault => .error fault
      | .ok dir =>
        match fs.enter dir last with
        | .error fault => .error fault
        | .ok place => .ok (place, last ≠ ['.'] ∧ last ≠ ['.', '.'])

/-- The place of a path that is to be written: a path that can only be a directory's has none. -/
def locateNew (fs : Files) (p : Path) : Except IoFault Place :=
  match fs.locateLast p with
  | .error fault => .error fault
  | .ok (_, named) =>
    if named && !endsInSlash p then fs.locate p else .error .isDirectory

/-- What a path leads to. -/
def nodeAt? (fs : Files) (p : Path) : Option Node :=
  match fs.locate p with
  | .ok place => fs.node? place
  | .error _ => none

/-- What a path leads to, if no link at its end is followed. -/
def linkAt? (fs : Files) (p : Path) : Option Node :=
  match fs.locateLink p with
  | .ok place => fs.node? place
  | .error _ => none

/-- Does the path lead to something? -/
def holds (fs : Files) (p : Path) : Bool := (fs.nodeAt? p).isSome

/-- Does the path lead to a directory? -/
def isDirectoryAt (fs : Files) (p : Path) : Bool :=
  ((fs.nodeAt? p).map Node.isDirectory).getD false

end Files

end NameTables
