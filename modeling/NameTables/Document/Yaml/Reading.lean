import NameTables.Document.Reading
import NameTables.Document.Yaml.Typed

/-!
# Reading YAML

How settings are read from a YAML document.  Any scalar will do where a text is expected, whatever
it looks like, and a value that is left out altogether serves as an empty list or record.  Inside
a record whose fields depend on one of them, scalars are taken for what they look like.

A reference inside the node that it refers to never comes to an end, so references are counted.

## Main definitions

* `Yaml.Document` — a document with its anchored nodes.
* `Yaml.Document.follow` — a node, references followed and counted.
* `Yaml.Document.reading`, `Yaml.Document.read?` — how its nodes are read.
-/

namespace NameTables

namespace Yaml

/-- A document: its root and the nodes that references lead to. -/
structure Document where
  /-- The root. -/
  root : Node
  /-- The anchored nodes under their numbers. -/
  anchored : List (Nat × Node)

namespace Document

/-- The document with a root.  Of two nodes with one number the later is kept. -/
def ofRoot (root : Node) : Document := ⟨root, root.marked.reverse⟩

/-- The document of a text. -/
def ofText? (s : Text) : Option Document := (document? s).map ofRoot

/-! ### References -/

/-- How many references may be followed for each unit of the document's size. -/
def referenceFactor : Nat := 100

/-- A reader that counts down the references it may still follow. -/
abbrev Count (α : Type) := StateT Nat Option α

/-- The node itself, or the one that it refers to.  Following a reference is counted. -/
def follow (d : Document) : Node → Count Node
  | .ref number => do
    match ← get with
    | 0 => failure
    | left + 1 =>
      set left
      orFail (d.anchored.lookup number)
  | n => return n

/-! ### Where a kind of value is expected -/

/-- A scalar left out altogether. -/
def isNothing (s : Scalar) : Bool := s.text.isEmpty && s.style == .plain

/-- Any scalar as a text. -/
def text? (d : Document) (n : Node) : Count Text := do
  match ← d.follow n with
  | .scalar _ s => return s.text
  | _ => failure

/-- May the scalar be read as an integer?  It is plain, or a literal block tagged as one. -/
def mayBeInteger (s : Scalar) : Bool :=
  s.style == .plain || (s.style == .literal && s.tag == some (typeTag "int"))

/-- A natural number below `2 ^ 64`. -/
def natural? (d : Document) (n : Node) : Count Nat := do
  match ← d.follow n with
  | .scalar _ s =>
    if mayBeInteger s then orFail ((Yaml.natural? s.text).filter (· ≤ Tree.greatestWord))
    else failure
  | _ => failure

/-- Does a scalar stand for none?  `none` if its tag says so and its text does not. -/
def standsForNone? (s : Scalar) : Option Bool :=
  if s.style ≠ .plain then some false
  else
    match s.tag with
    | some tag =>
      if tag = typeTag "null" then if isNone s.text then some true else none else some false
    | none => some (s.text.isEmpty || isNone s.text)

/-- A value that may stand for none.  A reference is followed here and not again. -/
def optional? (d : Document) (n : Node) : Count (Option Node) := do
  match ← d.follow n with
  | .scalar mark s => return if ← orFail (standsForNone? s) then none else some (.scalar mark s)
  | n => return some n

/-- A list, or nothing. -/
def items? (d : Document) (n : Node) : Count (List Node) := do
  match ← d.follow n with
  | .list _ _ items => return items
  | .scalar _ s => if isNothing s then return [] else failure
  | _ => failure

/-- A record with texts for keys, or nothing. -/
def fields? (d : Document) (n : Node) : Count (Fields Text Node) := do
  match ← d.follow n with
  | .record _ _ fields =>
    return .named (← fields.mapM fun field => return (← d.text? field.1, field.2))
  | .scalar _ s => if isNothing s then return .named [] else failure
  | _ => failure

/-! ### Where any value may stand -/

/-- How deep collections may nest in a document, the outermost one counted. -/
def depthLimit : Nat := 128

/-- The value of a node in which collections nest at most `depth` deep. -/
def value (d : Document) : (depth : Nat) → Node → Count Tree
  | depth, n => do
    match depth, ← d.follow n with
    | _, .ref _ => failure
    | _, .scalar _ s => orFail s.tree?
    | 0, .list .. => failure
    | 0, .record .. => failure
    | depth + 1, .list _ tag items =>
      if tag.any isLocalTag then failure
      return .list (← items.mapM (d.value depth))
    | depth + 1, .record _ tag fields =>
      if tag.any isLocalTag then failure
      return .record (← fields.mapM fun field =>
        return (← d.value depth field.1, ← d.value depth field.2))

/-- The value of a node inside a record in a target of the settings. -/
def tree? (d : Document) (n : Node) : Count Tree := d.value (depthLimit - Tree.variantDepth) n

/-- A record whose fields depend on one of them. -/
def variant? (d : Document) (n : Node) : Count (Fields Tree Node) := do
  match ← d.follow n with
  | .record _ tag fields =>
    if tag.any isLocalTag then failure
    return .named (← fields.mapM fun field => return (← d.tree? field.1, field.2))
  | .list _ tag items =>
    if tag.any isLocalTag then failure
    return .inOrder items
  | _ => failure

/-- How the nodes of a document are read. -/
def reading (d : Document) : Reading Count Node where
  text? := d.text?
  natural? := d.natural?
  optional? := d.optional?
  items? := d.items?
  fields? := d.fields?
  variant? := d.variant?
  tree? := d.tree?

/-- Read the root.  The references followed on the way, each as often as it is followed, are
limited by the size of the document. -/
def read? {α : Type} (d : Document) (decode : Reading Count Node → Node → Count α) : Option α :=
  ((decode d.reading d.root).run (referenceFactor * d.root.size)).map (·.1)

end Document

end Yaml

end NameTables
