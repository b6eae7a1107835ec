import NameTables.Document.Reading
import NameTables.Settings.Basic

/-!
# Decoding settings

Settings as they are written down: three levels of records with fixed fields, and a shape whose
fields depend on its kind.  A field that is not declared is passed over.  In the settings and in
the tools every field may be missing and then keeps its default value; a target has to give its
name, header, shape and output.

## Main definitions

* `Shape.decode?`, `Target.decode?`, `ToolSettings.decode?` — the parts.
* `Settings.decode?` — the settings of a document.
-/

namespace NameTables

variable {m : Type → Type} [Monad m] [MonadExceptOf Unit m] {ν : Type}

/-- A field's value, or a default when it is missing. -/
def fieldOr? {α : Type} (decode : ν → m α) (default : α) : Option ν → m α
  | some v => decode v
  | none => pure default

/-- The value of a field that must not be missing. -/
def required? {α : Type} (decode : ν → m α) : Option ν → m α
  | some v => decode v
  | none => throw ()

/-- A value that may stand for none. -/
def Reading.orNone? {α : Type} (r : Reading m ν) (decode : ν → m α) (v : ν) : m (Option α) := do
  match ← r.optional? v with
  | none => return none
  | some v => return some (← decode v)

/-- A path. -/
def Reading.path? (r : Reading m ν) (v : ν) : m Path := do return ⟨← r.text? v⟩

/-- A list of values that are read alike. -/
def Reading.each? {α : Type} (r : Reading m ν) (decode : ν → m α) (v : ν) : m (List α) := do
  (← r.items? v).mapM decode

/-! ### Shapes -/

namespace RowOrder

/-- The order with a name. -/
def named? (s : Text) : Option RowOrder :=
  if s = "encounter".toList then some .encounter
  else if s = "ascending".toList then some .ascending
  else none

/-- An order given by its name, or as a record whose only key names it and holds nothing. -/
def decode? : Tree → Option RowOrder
  | .text s => named? s
  | .record [(key, .null)] => ofKey? key
  | .record [(key, .record [])] => ofKey? key
  | _ => none
where
  /-- The order that a key names, by its name or by its position. -/
  ofKey? : Tree → Option RowOrder
    | .text s => named? s
    | .natural 0 => some .encounter
    | .natural 1 => some .ascending
    | _ => none

end RowOrder

/-- A tree that may be `null`. -/
def Tree.orNull? : Tree → Option (Option Text)
  | .null => some none
  | .text s => some (some s)
  | _ => none

namespace Shape

/-- The declared field that a key names, by its name or by its position.  A number past the last
field names none, as the empty text does. -/
def fieldName? (declared : List String) : Tree → Option Text
  | .text s => some s
  | .natural n => some ((declared[n]?.map String.toList).getD [])
  | _ => none

/-- The fields of a shape with their keys taken for names. -/
def nameFields? (declared : List String) : Fields Tree Tree → Option (Fields Text Tree)
  | .inOrder values => some (.inOrder values)
  | .named fields =>
    (fields.mapM fun field => (fieldName? declared field.1).map (·, field.2)).map .named

/-- The values of the declared fields of a shape. -/
def assign? (declared : List String) (fields : Fields Tree Tree) : Option (List (Option Tree)) :=
  (nameFields? declared fields).bind (Fields.assign? declared)

/-- The fields of an array of records. -/
def recordsFields : List String := ["type_name", "value_type", "array_name", "order"]

/-- The fields of a flat array. -/
def slotsFields : List String := ["array_name", "bound"]

/-- A shape from its kind and its other fields. -/
def ofKind? (kind : Text) (fields : Fields Tree Tree) : Option Shape :=
  if kind = "struct_array".toList then do
    let [typeName, valueType, arrayName, order] ← assign? recordsFields fields | none
    return .records (← required? Tree.text? typeName) (← required? Tree.text? valueType)
      (← required? Tree.text? arrayName) (← fieldOr? RowOrder.decode? .encounter order)
  else if kind = "flat_array".toList then do
    let [arrayName, bound] ← assign? slotsFields fields | none
    return .slots (← required? Tree.text? arrayName) (← fieldOr? Tree.orNull? none bound)
  else none

/-- Is this the key of the field that tells the kind? -/
def isKindKey : Tree → Bool
  | .text s => s == "kind".toList
  | _ => false

/-- A shape: a record with its kind among the fields, or a list that begins with the kind. -/
def decode? (r : Reading m ν) (v : ν) : m Shape := do
  match ← r.variant? v with
  | .inOrder [] => throw ()
  | .inOrder (kind :: rest) =>
    let rest ← rest.mapM r.tree?
    orFail (ofKind? (← r.text? kind) (.inOrder rest))
  | .named fields =>
    let [(_, kind)] := fields.filter (isKindKey ·.1) | throw ()
    let others := fields.filter (!isKindKey ·.1)
    let others ← others.mapM fun field => return (field.1, ← r.tree? field.2)
    orFail (ofKind? (← r.text? kind) (.named others))

end Shape

/-! ### Targets, tools and settings -/

/-- The fields of a target. -/
def Target.fields : List String :=
  ["name", "header", "package", "prefix", "shape", "output", "comment"]

/-- A target. -/
def Target.decode? (r : Reading m ν) (v : ν) : m Target := do
  let fields ← r.fields? v
  let [name, header, package, stem, shape, output, comment] ←
    orFail (fields.assign? Target.fields) | throw ()
  return {
    name := ← required? r.text? name
    header := ← required? r.text? header
    package := ← fieldOr? (r.orNone? r.text?) none package
    stem := ← fieldOr? r.text? [] stem
    shape := ← required? (Shape.decode? r) shape
    output := ← required? r.path? output
    comment := ← fieldOr? (r.orNone? r.text?) none comment }

/-- The fields of the tools. -/
def ToolSettings.fields : List String := ["compiler", "pkg_config", "timeout_secs", "include_dirs"]

/-- The tools. -/
def ToolSettings.decode? (r : Reading m ν) (v : ν) : m ToolSettings := do
  let fields ← r.fields? v
  let [compiler, packageTool, timeoutSeconds, includeDirs] ←
    orFail (fields.assign? ToolSettings.fields) | throw ()
  return {
    compiler := ← fieldOr? (r.orNone? r.path?) ToolSettings.default.compiler compiler
    packageTool := ← fieldOr? r.path? ToolSettings.default.packageTool packageTool
    timeoutSeconds := ← fieldOr? r.natural? ToolSettings.default.timeoutSeconds timeoutSeconds
    includeDirs := ← fieldOr? (r.each? r.path?) ToolSettings.default.includeDirs includeDirs }

/-- The fields of the settings. -/
def Settings.fields : List String := ["toolchain", "output_dir", "targets"]

/-- The settings. -/
def Settings.decode? (r : Reading m ν) (v : ν) : m Settings := do
  let fields ← r.fields? v
  let [tools, outputDir, targets] ← orFail (fields.assign? Settings.fields) | throw ()
  return {
    tools := ← fieldOr? (ToolSettings.decode? r) Settings.default.tools tools
    outputDir := ← fieldOr? (r.orNone? r.path?) Settings.default.outputDir outputDir
    targets := ← fieldOr? (r.each? (Target.decode? r)) Settings.default.targets targets }

end NameTables
