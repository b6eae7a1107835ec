import NameTables.Failure
import NameTables.Text.Blank

/-!
# Dependency rules

Asked for dependencies, a compiler writes a rule: a target, a colon, and the files that the
source reads, wrapped over lines that end in a backslash.  Only the absolute paths in it matter.
The translation unit and the file every unit reads come first, so the header usually stands
third; if something else stands there, the first path that ends in the header is taken.

Blanks and backslashes both separate, so a path with an escaped blank in it falls apart.

## Main definitions

* `Rule`, `Rule.ofText` — the absolute paths of a rule, in order.
* `Rule.headerPath` — the path of a header.
-/

namespace NameTables

/-- The absolute paths in a dependency rule, in order. -/
structure Rule where
  /-- The paths. -/
  paths : List Path
  deriving DecidableEq, Repr

namespace Rule

/-- The words of a rule: what stands between backslashes and blanks. -/
def tokens (s : Text) : List Text := (Text.pieces (· == '\\') s).flatMap Text.words

/-- The absolute paths among the words of a rule. -/
def ofText (s : Text) : Rule := ⟨((tokens s).map Path.mk).filter Path.isAbsolute⟩

/-- Where the header usually stands among the paths, counted from zero. -/
def usualPosition : Nat := 2

/-- The path of the header: the one at the usual place if it ends in the header, else the first
one that does. -/
def headerPath (r : Rule) (header : Text) : Except Failure Path :=
  let matching := fun p : Path => p.endsWith ⟨header⟩
  match r.paths[usualPosition]?.filter matching, r.paths.find? matching with
  | some usual, _ => .ok usual
  | none, some first => .ok first
  | none, none =>
    .error <| .malformedRule <|
      match r.paths[usualPosition]? with
      | some held => .noMatch header held
      | none => .tooFew r.paths.length

end Rule

end NameTables
