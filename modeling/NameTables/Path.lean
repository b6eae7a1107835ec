import NameTables.Text.Basic

/-!
# Paths

A path is kept as it was written.  What it is made of is told by its parts: repeated slashes, a
slash at the end and inner `.` segments have no part, a leading `.` of a relative path has one,
and so has `..` wherever it stands.  Two spellings of one path have the same parts.

## Main definitions

* `Path`, `Path.parts` — a path and its parts.
* `Path.endsWith` — one path's parts end in another's.
* `Path.join`, `Path.parent?`, `Path.extension?` — the textual operations.
-/

namespace NameTables

/-- A path as written. -/
structure Path where
  /-- The spelling. -/
  text : Text
  deriving DecidableEq, Repr

namespace Path

/-- A part of a path. -/
inductive Part
  /-- The root, in front of an absolute path. -/
  | root
  /-- A leading `.` of a relative path. -/
  | here
  /-- The segment `..`. -/
  | up
  /-- Any other segment. -/
  | name (s : Text)
  deriving DecidableEq, Repr

/-- The segments between slashes that are not empty. -/
def segments (p : Path) : List Text :=
  (Text.pieces (· == '/') p.text).filter (!·.isEmpty)

/-- Does the path begin at the root? -/
def isAbsolute (p : Path) : Bool :=
  match p.text with
  | '/' :: _ => true
  | _ => false

/-- The part of a segment that is not `.`. -/
def partOf (segment : Text) : Part := if segment = ['.', '.'] then .up else .name segment

/-- The parts of segments of which none leads the path: `.` has no part. -/
def innerParts (segments : List Text) : List Part := (segments.filter (· ≠ ['.'])).map partOf

/-- The parts of a path. -/
def parts (p : Path) : List Part :=
  if p.isAbsolute then .root :: innerParts p.segments
  else
    match p.segments with
    | [] => []
    | s :: rest => if s = ['.'] then .here :: innerParts rest else innerParts (s :: rest)

/-- Are the two spellings of one path? -/
def same (p q : Path) : Bool := p.parts = q.parts

/-- Do the parts of `p` end in the parts of `q`? -/
def endsWith (p q : Path) : Bool := q.parts.isSuffixOf p.parts

/-- A path below a directory: an absolute path is taken as it is, any other is put after the
directory, with a slash between unless one is there or the directory is empty. -/
def join (dir p : Path) : Path :=
  if p.isAbsolute then p
  else if dir.text.isEmpty ∨ dir.text.getLast? = some '/' then ⟨dir.text ++ p.text⟩
  else ⟨dir.text ++ '/' :: p.text⟩

/-- Cut a reversed path at its last segment: what stands before it. -/
def dropSegment (reversed : Text) : Text := reversed.dropWhile (· ≠ '/')

/-- The reversed spelling without slashes and `.` segments at its end; a slash that leads the
path, or a `.` that leads a relative one, stays. -/
def trimTail : (fuel : Nat) → Text → Text
  | 0, reversed => reversed
  | fuel + 1, reversed =>
    match reversed with
    | ['/'] => ['/']
    | '/' :: rest => trimTail fuel rest
    | '.' :: '/' :: rest => trimTail fuel ('/' :: rest)
    | _ => reversed

/-- The path without its last part, or `none` for the root and the empty path.  Slashes and inner
`.` segments before that part go with it. -/
def parent? (p : Path) : Option Path :=
  match p.parts.getLast? with
  | none => none
  | some .root => none
  | some _ =>
    let trimmed := trimTail p.text.length p.text.reverse
    some ⟨(trimTail p.text.length (dropSegment trimmed)).reverse⟩

/-- The name the path ends in, when its last part is a name. -/
def fileName? (p : Path) : Option Text :=
  match p.parts.getLast? with
  | some (.name s) => some s
  | _ => none

/-- What follows the last dot of the file name; a name that begins with its only dot has no
extension. -/
def extension? (p : Path) : Option Text :=
  p.fileName?.bind fun s =>
    match (Text.pieces (· == '.') s).reverse with
    | _ :: [] => none
    | _ :: [[]] => none
    | ext :: _ => some ext
    | [] => none

end Path

end NameTables
