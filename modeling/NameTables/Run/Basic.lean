import NameTables.Artefact.Basic
import NameTables.Run.Delivery
import NameTables.Settings.Basic

/-!
# Running targets

Running a target finds its header, makes the artefact and delivers it.  Targets run one after
another, and the first failure is the last thing that happens.

## Main definitions

* `Locator` — whatever finds headers.
* `Target.run`, `Outcome` — one target, and what came of it.
* `Progress`, `runInTurn` — several targets, and how far they came.
-/

namespace NameTables

/-- What finds the file behind an include name, with the flags of a package if one is given. -/
def Locator := (header : Text) → (package : Option Text) → Job Path

/-- What came of a target. -/
structure Outcome where
  /-- The target's name. -/
  target : Text
  /-- The file behind its header. -/
  header : Path
  /-- The file the artefact was for. -/
  output : Path
  /-- The number of entries. -/
  entries : Nat
  /-- The number of aliases. -/
  aliases : Nat
  /-- The number of definitions left over. -/
  unresolved : Nat
  /-- What happened to the output. -/
  delivery : Delivery
  deriving DecidableEq, Repr

/-- The artefact of a target, made from the header at a path. -/
def Target.artefact (t : Target) (header : Path) : Job Artefact := do
  let source ← Job.look (·.read header)
  Job.ofExcept (Artefact.generate source header.text t.request)

/-- Run a target with its artefact going to `output`. -/
def Target.run (t : Target) (locate : Locator) (output : Path) (dryRun : Bool) :
    Job Outcome := do
  let header ← locate t.header t.package
  let a ← t.artefact header
  let delivery ← deliver output a.text.encode dryRun
  return ⟨t.name, header, output, a.entries, a.aliases, a.unresolved, delivery⟩

/-- How far several targets came: the outcomes, and the target that failed. -/
structure Progress where
  /-- The outcomes of the targets before the failure. -/
  outcomes : List Outcome
  /-- The target that failed, and why. -/
  failure : Option (Target × Failure)
  deriving DecidableEq, Repr

/-- Run targets one after another, each to its place in the settings, until one fails. -/
def runInTurn (s : Settings) (locate : Locator) (dryRun : Bool) :
    List Target → Files → Progress × Files
  | [], fs => (⟨[], none⟩, fs)
  | t :: rest, fs =>
    match t.run locate (s.outputPath t) dryRun fs with
    | (.error failure, fs) => (⟨[], some (t, failure)⟩, fs)
    | (.ok outcome, fs) =>
      let (progress, fs) := runInTurn s locate dryRun rest fs
      (⟨outcome :: progress.outcomes, progress.failure⟩, fs)

end NameTables
