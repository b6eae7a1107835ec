import NameTables.Command.Invocation
import NameTables.Command.Report
import NameTables.Resolver
import NameTables.Settings.Load

/-!
# The command line

An invocation reads its settings, does its task, and prints.  Names of targets are checked before
any tool is started; after that, targets run in turn, and what was printed before a failure stays
printed.

## Main definitions

* `Report` — what an invocation prints, and why it fails.
* `Invocation.run` — what comes of an invocation.
* `Response`, `respond` — what comes of a command line.
-/

namespace NameTables

/-- What is printed to standard output, and why the program fails after that, if it does. -/
structure Report where
  /-- The text on standard output. -/
  printed : Text
  /-- Why the program fails. -/
  complaint : Option Complaint
  deriving DecidableEq, Repr

/-- What comes of a job that prints its result and that fails during an activity. -/
def Job.report {α : Type} (job : Job α) (activity : Activity) (print : α → Text) :
    Files → Report × Files := fun fs =>
  match job fs with
  | (.ok a, fs) => (⟨print a, none⟩, fs)
  | (.error failure, fs) => (⟨[], some (.during activity failure)⟩, fs)

namespace Settings

/-- The settings in a file, or the built-in ones. -/
def load : Option Path → Job Settings
  | none => pure default
  | some file => do
    let content ← Job.look (·.read file)
    Job.ofExcept (ofFile file content)

/-- The first name that no target has. -/
def unknownName? (s : Settings) (names : List Text) : Option Text :=
  names.find? fun name => (s.target? name).isNone

/-- Go on with the resolver that the settings ask for. -/
def withResolver (s : Settings) (tools : Tools)
    (next : Resolver → Files → Report × Files) : Files → Report × Files := fun fs =>
  match Resolver.ofSettings tools s.tools fs with
  | (.error failure, fs) => (⟨[], some (.during .preparing failure)⟩, fs)
  | (.ok r, fs) => next r fs

/-- What several targets print. -/
def progressReport (p : Progress) : Report :=
  ⟨p.outcomes.flatMap Outcome.text,
    p.failure.map fun (t, failure) => .during (.running t.name) failure⟩

/-- Run the targets with these names in turn. -/
def runNamed (s : Settings) (tools : Tools) (dryRun : Bool) (names : List Text) :
    Files → Report × Files := fun fs =>
  match s.unknownName? names with
  -- nothing has been started or written yet
  | some name => (⟨[], some (.unknownTarget name (s.targets.map Target.name))⟩, fs)
  | none =>
    s.withResolver tools
      (fun r fs =>
        let (p, fs) := runInTurn s (r.resolve tools) dryRun (names.filterMap s.target?) fs
        (progressReport p, fs))
      fs

/-- Run all targets in turn, by their names. -/
def runAll (s : Settings) (tools : Tools) (dryRun : Bool) : Files → Report × Files :=
  s.runNamed tools dryRun (s.targets.map Target.name)

/-- Print the path of a header. -/
def resolveHeader (s : Settings) (tools : Tools) (header : Text) (package : Option Text)
    (dirs : List Path) : Files → Report × Files :=
  s.withResolver tools fun r fs =>
    ((r.addDirs fs.herePath dirs).resolve tools header package).report (.resolving header)
      (fun p => p.text ++ ['\n']) fs

end Settings

namespace AdHoc

/-- The shape that is spelled out. -/
def shape? (a : AdHoc) : Option Shape :=
  match a.flatArray, a.structType with
  | some arrayName, none => some (.slots arrayName a.bound)
  | none, some typeName =>
    some (.records typeName (a.valueType.getD []) (a.array.getD [])
      (if a.sorted then .ascending else .encounter))
  | _, _ => none

/-- The comment that tells the command line. -/
def provenance (a : AdHoc) : Text :=
  "// This file was generated by `macrotab generate --header ".toList ++ a.header
    ++ (match a.package with | some p => " --package ".toList ++ p | none => [])
    ++ (if a.stem.isEmpty then [] else " --prefix ".toList ++ a.stem)
    ++ "`. Do not edit.".toList

/-- The target that is spelled out, in a shape. -/
def target (a : AdHoc) (shape : Shape) : Target where
  name := "generate".toList
  header := a.header
  package := a.package
  stem := a.stem
  shape := shape
  output := a.output
  comment := some (a.comment.getD a.provenance)

/-- Run the target that is spelled out. -/
def run (a : AdHoc) (s : Settings) (tools : Tools) (dryRun : Bool) : Files → Report × Files :=
  match a.shape? with
  | none => fun fs => (⟨[], some .noShape⟩, fs)
  | some shape =>
    s.withResolver tools fun r =>
      ((a.target shape).run (r.resolve tools) a.output dryRun).report (.generating a.header)
        Outcome.text

end AdHoc

/-- Do a task with settings. -/
def Task.run (task : Task) (s : Settings) (tools : Tools) (dryRun : Bool) :
    Files → Report × Files :=
  match task with
  | .resolve header package dirs => s.resolveHeader tools header package dirs
  | .named names => s.runNamed tools dryRun names
  | .all => s.runAll tools dryRun
  | .list json => fun fs => (⟨if json then s.jsonListing else s.listing, none⟩, fs)
  | .generate target => target.run s tools dryRun

/-- What comes of an invocation. -/
def Invocation.run (i : Invocation) (tools : Tools) : Files → Report × Files := fun fs =>
  match Settings.load i.settings fs with
  | (.ok s, fs) => i.task.run s tools i.dryRun fs
  | (.error failure, fs) =>
    (⟨[], some (.during (.loading (i.settings.getD ⟨[]⟩)) failure)⟩, fs)

/-- What comes of a command line. -/
structure Response where
  /-- The exit code. -/
  code : Nat
  /-- The text on standard output. -/
  output : Text
  /-- The text on standard error. -/
  complaint : Text
  deriving DecidableEq, Repr

/-- How the program is used. -/
def usage : Text :=
  ("usage: macrotab [-c FILE] [--dry-run] [-v] TASK\n"
    ++ "tasks:\n"
    ++ "  resolve HEADER [-p PACKAGE] [-I DIR]\n"
    ++ "  run TARGET...\n"
    ++ "  all\n"
    ++ "  list [-f text|json]\n"
    ++ "  generate --header HEADER -o FILE [-p PACKAGE] [--prefix PREFIX] [--comment TEXT]\n"
    ++ "    --flat-array ARRAY [--bound NAME]\n"
    ++ "    --struct-type TYPE --value-type TYPE --array ARRAY [--sorted]\n").toList

namespace Response

/-- The response to a command line that is not carried out. -/
def ofStop : Stop → Response
  | .misuse => ⟨2, [], usage⟩
  | .help => ⟨0, usage, []⟩
  | .version => ⟨0, "macrotab 0.1.0\n".toList, []⟩

/-- The response to a command line that is carried out. -/
def ofReport (r : Report) : Response :=
  match r.complaint with
  | none => ⟨0, r.printed, []⟩
  | some c => ⟨1, r.printed, c.text⟩

end Response

/-- What comes of a command line. -/
def respond (tools : Tools) (args : List Text) : Files → Response × Files := fun fs =>
  match Invocation.ofArguments args with
  | .error stop => (.ofStop stop, fs)
  | .ok i =>
    let (report, fs) := i.run tools fs
    (.ofReport report, fs)

end NameTables
