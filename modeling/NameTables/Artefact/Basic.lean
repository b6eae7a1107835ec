import NameTables.Artefact.Records
import NameTables.Artefact.Slots
import NameTables.Shape

/-!
# Artefacts

From the octets of a header to the text of an artefact: extract the definitions, build the table,
and write it in the shape that is asked for.  A header without any entry is an error, since an
empty artefact would hide a wrong stem.

One more way to fail is left out.  The pattern of a definition has the stem in it, and a matcher that
compiles patterns has a limit to the size of what it compiles, so it refuses a stem of several
hundred thousand characters.  Here lines are matched without compiling anything, and no stem is
refused.

## Main definitions

* `Table.render` — a table in a shape.
* `Artefact`, `Artefact.generate` — the text made from a header, with its counts.
-/

namespace NameTables

/-- The table written in the requested shape. -/
def Table.render (t : Table) (request : Request) : Except Failure Text :=
  match request.shape with
  | .records typeName valueType arrayName order =>
    .ok (Records.render t request.comment typeName valueType arrayName order)
  | .slots arrayName bound => Slots.render t request.comment arrayName bound

/-- What is made from a header. -/
structure Artefact where
  /-- The C text. -/
  text : Text
  /-- The number of entries. -/
  entries : Nat
  /-- The number of aliases. -/
  aliases : Nat
  /-- The number of definitions left over. -/
  unresolved : Nat
  deriving DecidableEq, Repr

namespace Artefact

/-- The table of a header. -/
def tableOf (stem : Text) (source : Bytes) : Table :=
  Table.build stem (Definition.ofSource stem source)

/-- The artefact of a header; `sourceName` is what the header is called in a failure. -/
def generate (source : Bytes) (sourceName : Text) (request : Request) : Except Failure Artefact :=
  let t := tableOf request.stem source
  if t.entries.isEmpty then .error (.nothingExtracted request.stem sourceName)
  else (t.render request).map fun text =>
    ⟨text, t.entries.length, t.aliasCount, t.unresolved.length⟩

/-- What a header without a name is called. -/
def unnamedSource : Text := "<input>".toList

end Artefact

end NameTables
