import NameTables.Artefact.Comment
import NameTables.Table.Order

/-!
# Arrays of records

One row for each entry: the quoted names on the left, the literal on the right.  Both columns are
as wide as their widest cell, the names flush left and the literals flush right, so the text
changes only where the header does.

No cell is too wide here.  A formatter that keeps widths in 16 bits gives up at a cell of more than
65535 octets; that limit is the formatter's, and is left out.

## Main definitions

* `Records.row` — one row with given column widths.
* `Records.rows` — all rows, padded to the widest cells.
* `Records.render` — the artefact.
-/

namespace NameTables

namespace Records

/-- The first cell of a row: the names in quotes, and the comma. -/
def nameCell (e : Entry) : Text := '\x22' :: e.display ++ ['\x22', ',']

/-- The width of the widest text. -/
def widest (cells : List Text) : Nat := (cells.map Text.byteLength).foldl max 0

/-- A row with both cells padded. -/
def row (nameWidth valueWidth : Nat) (e : Entry) : Text :=
  "    \x7b".toList ++ Text.padRight nameWidth (nameCell e) ++ ' ' ::
    Text.padLeft valueWidth e.literal ++ ['\x7d']

/-- The rows of the entries, padded to the widest cells. -/
def rows (entries : List Entry) : List Text :=
  entries.map (row (widest (entries.map nameCell)) (widest (entries.map Entry.literal)))

/-- The rows as they stand between the braces: a comma after each but the last, and a line end
after the last. -/
def body (entries : List Entry) : Text :=
  if entries.isEmpty then [] else Text.join ",\n".toList (rows entries) ++ ['\n']

/-- The text in front of the rows. -/
def opening (comment typeName valueType arrayName : Text) : Text :=
  commentLine comment ++ "\n\n".toList
    ++ "struct ".toList ++ typeName ++ " \x7b\n".toList
    ++ "    const char *name;\n".toList
    ++ "    ".toList ++ valueType ++ " value;\n".toList
    ++ "\x7d;\n\n".toList
    ++ "static const struct ".toList ++ typeName ++ ' ' :: arrayName ++ "[] = \x7b\n".toList

/-- The text after the rows. -/
def closing : Text := "\x7d;\n".toList

/-- The artefact: the record type and the array of its rows. -/
def render (t : Table) (comment typeName valueType arrayName : Text) (order : RowOrder) : Text :=
  opening comment typeName valueType arrayName ++ body (t.ordered order) ++ closing

end Records

end NameTables
