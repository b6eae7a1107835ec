import NameTables.Table.Order

/-!
# Shapes of an artefact

An artefact is the C text of one table.  It has one of two shapes: an array of name and value
records, or an array of names indexed by value together with the routine that fills it.

## Main definitions

* `Shape` — the two shapes with the C names they need.
* `Request` — what is asked of a header: stem, shape and comment.
-/

namespace NameTables

/-- The shape of an artefact. -/
inductive Shape
  /-- An array of records, one row for each entry. -/
  | records (typeName valueType arrayName : Text) (order : RowOrder)
  /-- An array of names with the value as index; the entry named `bound` sizes it only. -/
  | slots (arrayName : Text) (bound : Option Text)
  deriving DecidableEq, Repr

/-- The name of the array in the artefact. -/
def Shape.arrayName : Shape → Text
  | .records _ _ arrayName _ => arrayName
  | .slots arrayName _ => arrayName

/-- What to make of a header. -/
structure Request where
  /-- The beginning that a macro's name must have. -/
  stem : Text
  /-- The shape of the artefact. -/
  shape : Shape
  /-- The comment on its first line. -/
  comment : Text
  deriving DecidableEq, Repr

end NameTables
