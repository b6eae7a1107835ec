import NameTables.Document.Tree
import NameTables.Settings.Basic

/-!
# Encoding settings

Settings as a value tree, in the form they are written down in: every field under its key and in
its declared order, `null` for what is absent, and the kind of a shape in front of its fields.

## Main definitions

* `Tree.object`, `Tree.ofOption`, `Tree.ofPath` — the kinds of values that occur.
* `Shape.entries`, `Target.entries`, `ToolSettings.entries` — the parts.
* `Settings.entries`, `Settings.toTree` — the settings.
-/

namespace NameTables

namespace Tree

/-- A record whose keys are texts. -/
def object (fields : List (Text × Tree)) : Tree := .record (fields.map fun f => (.text f.1, f.2))

/-- A value that may be absent. -/
def ofOption {α : Type} (encode : α → Tree) : Option α → Tree
  | none => .null
  | some a => encode a

/-- A path. -/
def ofPath (p : Path) : Tree := .text p.text

end Tree

/-- An order, by its name. -/
def RowOrder.toTree : RowOrder → Tree
  | .encounter => .text "encounter".toList
  | .ascending => .text "ascending".toList

/-- The name of a shape's kind. -/
def Shape.kind : Shape → Text
  | .records .. => "struct_array".toList
  | .slots .. => "flat_array".toList

/-- The entries of a shape. -/
def Shape.entries (s : Shape) : List (Text × Tree) :=
  ("kind".toList, .text s.kind) :: match s with
    | .records typeName valueType arrayName order => [
        ("type_name".toList, .text typeName),
        ("value_type".toList, .text valueType),
        ("array_name".toList, .text arrayName),
        ("order".toList, order.toTree)]
    | .slots arrayName bound => [
        ("array_name".toList, .text arrayName),
        ("bound".toList, .ofOption .text bound)]

/-- A shape. -/
def Shape.toTree (s : Shape) : Tree := .object s.entries

/-- The entries of a target. -/
def Target.entries (t : Target) : List (Text × Tree) := [
  ("name".toList, .text t.name),
  ("header".toList, .text t.header),
  ("package".toList, .ofOption .text t.package),
  ("prefix".toList, .text t.stem),
  ("shape".toList, t.shape.toTree),
  ("output".toList, .ofPath t.output),
  ("comment".toList, .ofOption .text t.comment)]

/-- A target. -/
def Target.toTree (t : Target) : Tree := .object t.entries

/-- The entries of the tools. -/
def ToolSettings.entries (s : ToolSettings) : List (Text × Tree) := [
  ("compiler".toList, .ofOption .ofPath s.compiler),
  ("pkg_config".toList, .ofPath s.packageTool),
  ("timeout_secs".toList, .natural s.timeoutSeconds),
  ("include_dirs".toList, .list (s.includeDirs.map .ofPath))]

/-- The tools. -/
def ToolSettings.toTree (s : ToolSettings) : Tree := .object s.entries

/-- The entries of the settings. -/
def Settings.entries (s : Settings) : List (Text × Tree) := [
  ("toolchain".toList, s.tools.toTree),
  ("output_dir".toList, .ofOption .ofPath s.outputDir),
  ("targets".toList, .list (s.targets.map Target.toTree))]

/-- The settings. -/
def Settings.toTree (s : Settings) : Tree := .object s.entries

end NameTables
