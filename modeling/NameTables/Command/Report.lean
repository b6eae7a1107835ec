import NameTables.Document.JsonText
import NameTables.Run.Basic

/-!
# Reports

What the program prints: outcomes and lists of targets on standard output, and complaints, which
say what was being done and then what went wrong.

## Main definitions

* `Outcome.text` — what is printed of a target that has run.
* `Settings.listing`, `Settings.jsonListing` — the two lists of targets.
* `Complaint`, `Complaint.text` — why the program fails.
-/

namespace NameTables

/-- How a delivery is called. -/
def Delivery.text : Delivery → Text
  | .written => "written".toList
  | .unchanged => "unchanged".toList
  | .skipped => "dry run, not written".toList

/-- What is printed of a target that has run. -/
def Outcome.text (o : Outcome) : Text :=
  o.target ++ ": ".toList ++ Text.ofNat o.entries ++ " entries, ".toList ++ Text.ofNat o.aliases
    ++ " aliases (".toList ++ Text.ofNat o.unresolved ++ " dropped) from ".toList ++ o.header.text
    ++ "\n   ".toList ++ o.output.text ++ " (".toList ++ o.delivery.text ++ ")\n".toList

/-- How a shape is called. -/
def Shape.text : Shape → Text
  | .records .. => "struct array".toList
  | .slots .. => "flat array".toList

namespace Settings

/-- The line of a target in the list for reading. -/
def listingLine (s : Settings) (t : Target) : Text :=
  Text.padRight 12 t.name ++ " <".toList ++ t.header ++ "> ".toList ++ t.stem ++ "* -> ".toList
    ++ (s.outputPath t).text ++ " (".toList ++ t.shape.text ++ ": ".toList ++ t.shape.arrayName
    ++ ")\n".toList

/-- The list of targets for reading. -/
def listing (s : Settings) : Text := s.targets.flatMap s.listingLine

/-- A target in the JSON list. -/
def listingRecord (s : Settings) (t : Target) : Tree :=
  .record [
    (.text "array".toList, .text t.shape.arrayName),
    (.text "header".toList, .text t.header),
    (.text "name".toList, .text t.name),
    (.text "output".toList, .text (s.outputPath t).text),
    (.text "package".toList, match t.package with | some p => .text p | none => .null),
    (.text "prefix".toList, .text t.stem)]

/-- The list of targets in JSON. -/
def jsonListing (s : Settings) : Text :=
  (Tree.list (s.targets.map s.listingRecord)).toJson ++ ['\n']

end Settings

/-- What was being done when something went wrong. -/
inductive Activity
  /-- The settings were read. -/
  | loading (file : Path)
  /-- The compiler was looked for. -/
  | preparing
  /-- A header was looked for. -/
  | resolving (header : Text)
  /-- A target of the settings ran. -/
  | running (name : Text)
  /-- A target of the command line ran. -/
  | generating (header : Text)
  deriving DecidableEq, Repr

/-- The wording of an activity. -/
def Activity.message : Activity → Text
  | .loading file => "loading configuration from ".toList ++ file.text
  | .preparing => "setting up the C toolchain".toList
  | .resolving header => "resolving <".toList ++ header ++ ">".toList
  | .running name => "generating target '".toList ++ name ++ "'".toList
  | .generating header => "generating a table from <".toList ++ header ++ ">".toList

/-- Why the program fails. -/
inductive Complaint
  /-- A name is not that of a target. -/
  | unknownTarget (name : Text) (available : List Text)
  /-- A target of the command line has no shape. -/
  | noShape
  /-- Something went wrong meanwhile. -/
  | during (activity : Activity) (failure : Failure)
  deriving DecidableEq, Repr

namespace Complaint

/-- What is said: the outermost circumstance first, the innermost cause last. -/
def chain : Complaint → Text × List Text
  | .unknownTarget name available =>
    ("unknown target '".toList ++ name ++ "' (available: ".toList
      ++ Text.join ", ".toList available ++ ")".toList, [])
  | .noShape => ("choose exactly one of --flat-array or --struct-type".toList, [])
  | .during activity failure => (activity.message, failure.causes)

/-- A text with `indent` in front of every line but the first. -/
def hang (indent s : Text) : Text :=
  s.flatMap fun c => if c = '\n' then '\n' :: indent else [c]

/-- The causes with their numbers. -/
def numbered : Nat → List Text → Text
  | _, [] => []
  | n, cause :: rest =>
    Text.padLeft 5 (Text.ofNat n) ++ ": ".toList ++ hang (List.replicate 7 ' ') cause ++ ['\n']
      ++ numbered (n + 1) rest

/-- The text of causes: a single one is indented, several are numbered. -/
def causesText : List Text → Text
  | [] => []
  | [cause] =>
    "\nCaused by:\n".toList ++ List.replicate 4 ' ' ++ hang (List.replicate 4 ' ') cause ++ ['\n']
  | causes => "\nCaused by:\n".toList ++ numbered 0 causes

/-- What is printed of a complaint. -/
def text (c : Complaint) : Text :=
  "Error: ".toList ++ c.chain.1 ++ ['\n'] ++ causesText c.chain.2

end Complaint

end NameTables
