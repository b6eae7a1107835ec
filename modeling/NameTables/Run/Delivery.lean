import NameTables.Job

/-!
# Delivering a text

A generated text goes to its file only if the file does not hold it already, so that an unchanged
artefact keeps its date.  A dry run delivers nothing.

## Main definitions

* `Delivery` — what happened to the file.
* `deliver` — the delivery.
-/

namespace NameTables

/-- What happened to a file. -/
inductive Delivery
  /-- It has got a new content. -/
  | written
  /-- It had the content before. -/
  | unchanged
  /-- It was not to be touched. -/
  | skipped
  deriving DecidableEq, Repr

/-- Does the path lead to a file with this content? -/
def Files.hasContent (fs : Files) (p : Path) (content : Bytes) : Bool :=
  match fs.read p with
  | .ok held => held = content
  | .error _ => false

/-- The files with the directory a path is in, if it is missing. -/
def Files.withParent (fs : Files) (p : Path) : Option IoFault × Files :=
  match p.parent? with
  | none => (none, fs)
  | some dir =>
    -- a bare file name has the current directory for its parent, and that is there
    if dir.text.isEmpty || fs.holds dir then (none, fs) else fs.makeDirectories dir

/-- Make a path hold a content, with the directories it needs. -/
def Files.writeWithParent (p : Path) (content : Bytes) : Job Unit := fun fs =>
  match fs.withParent p with
  | (some fault, fs) => (.error (.io fault), fs)
  | (none, fs) => Job.change (·.write p content) fs

/-- Make a path hold a content, unless it does already or this is a dry run. -/
def deliver (p : Path) (content : Bytes) (dryRun : Bool) : Job Delivery := fun fs =>
  if dryRun then (.ok .skipped, fs)
  else if fs.hasContent p content then (.ok .unchanged, fs)
  else
    match Files.writeWithParent p content fs with
    | (.ok (), fs) => (.ok .written, fs)
    | (.error failure, fs) => (.error failure, fs)

end NameTables
