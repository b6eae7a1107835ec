import NameTables.Text.Blank
import NameTables.Text.Utf8

/-!
# Macro definitions in a header

A header defines a constant on one line, `#define NAME VALUE`.  Only macros whose name begins
with a given stem are of interest, and they are known by what follows the stem.  A line that is
anything else (a function-like macro, a parenthesised value, a comment, a condition) is passed
over without complaint.

## Main definitions

* `Definition` — a name and the text of its value.
* `Definition.ofLine?` — the definition on a line.
* `Definition.ofSource` — the definitions of a header, in order.
-/

namespace NameTables

/-- A macro: its name without the stem, and the text of its value. -/
structure Definition where
  /-- What follows the stem in the macro's name. -/
  name : Text
  /-- The value as written, up to the first blank. -/
  value : Text
  deriving DecidableEq, Repr

namespace Definition

/-- A character of a macro name: an ASCII letter, an ASCII digit or the underscore. -/
def isNameChar (c : Char) : Bool :=
  ('a' ≤ c && c ≤ 'z') || ('A' ≤ c && c ≤ 'Z') || ('0' ≤ c && c ≤ '9') || c == '_'

/-- A character of a value: no blank. -/
def isValueChar (c : Char) : Bool := !isBlank c

/-- The value at the beginning of `s`: up to the first blank, not empty and not opened by a
parenthesis. -/
def valueAt? (s : Text) : Option Text :=
  match s.takeWhile isValueChar with
  | [] => none
  | '(' :: _ => none
  | value => some value

/-- The name, the blanks after it and the value, at the beginning of `s`. -/
def nameAndValueAt? (s : Text) : Option Definition :=
  let name := s.takeWhile isNameChar
  let rest := s.dropWhile isNameChar
  if name.isEmpty then none
  else
    match rest with
    | [] => none
    | c :: _ =>
      -- anything else right after the name, a parenthesis for one, makes it another kind of line
      if isBlank c then (valueAt? (rest.dropWhile isBlank)).map fun value => ⟨name, value⟩
      else none

/-- The stem, a name and a value after at least one blank.  As the stem may itself begin with
blanks, every number of blanks is tried, more of them first. -/
def afterBlanks? (stem : Text) : Text → Option Definition
  | [] => none
  | c :: s =>
    if isBlank c then
      (afterBlanks? stem s).or ((Text.dropLead? stem s).bind nameAndValueAt?)
    else none

@[simp] theorem afterBlanks?_nil (stem : Text) : afterBlanks? stem [] = none := rfl

theorem afterBlanks?_cons (stem : Text) (c : Char) (s : Text) :
    afterBlanks? stem (c :: s) =
      if isBlank c then
        (afterBlanks? stem s).or ((Text.dropLead? stem s).bind nameAndValueAt?)
      else none := rfl

/-- The word that opens a definition. -/
def keyword : Text := "#define".toList

/-- The definition on a line, which may have blanks around it. -/
def ofLine? (stem line : Text) : Option Definition :=
  (Text.dropLead? keyword (Text.trim line)).bind (afterBlanks? stem)

/-- The lines of a byte string: each ends at a line feed, and what follows the last one is a line
too unless it is empty. -/
def linesOf (source : Bytes) : List Bytes := splitEnded (· == 10) source

/-- The definitions of a header whose names begin with the stem, in order.  Each line is read as
UTF-8 on its own. -/
def ofSource (stem : Text) (source : Bytes) : List Definition :=
  (linesOf source).filterMap fun line => ofLine? stem line.decodeLossy

end Definition

end NameTables
