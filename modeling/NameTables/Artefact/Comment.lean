import NameTables.Text.Blank

/-!
# The comment on the first line

An artefact begins with a comment that says where it comes from.  A text that opens a comment
already is used as it stands, any other becomes a line comment; blanks at its end are dropped.

## Main definitions

* `commentLine` — the first line of an artefact.
-/

namespace NameTables

/-- The comment as the first line of an artefact. -/
def commentLine (comment : Text) : Text :=
  match Text.trimEnd comment with
  | '/' :: '/' :: rest => '/' :: '/' :: rest
  | '/' :: '*' :: rest => '/' :: '*' :: rest
  | other => '/' :: '/' :: ' ' :: other

end NameTables
