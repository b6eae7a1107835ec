import NameTables.Literal

/-!
# A cursor in a YAML text

Where reading stands: the rest of the text, how many octets it takes up to here, and the line and
the column, all counted from zero.  Columns matter because indentation is structure; they count
characters.

## Main definitions

* `Yaml.Cursor` — the place, with the rest of the text.
* `Yaml.Cursor.next`, `Yaml.Cursor.takeBreak` — pass a character or a line break.
* `Yaml.Cursor.takeWhile` — pass the characters of a class.
-/

namespace NameTables

namespace Yaml

/-! ### Character classes -/

/-- A space or a tab. -/
def isGap (c : Char) : Bool := c == ' ' || c == '\t'

/-- A character that ends a line. -/
def isBreak (c : Char) : Bool :=
  c == '\n' || c == '\r' || c == '\u0085' || c == '\u2028' || c == '\u2029'

/-- A character of names: an ASCII letter or digit, an underscore or a hyphen. -/
def isWordChar (c : Char) : Bool :=
  ('a' ≤ c && c ≤ 'z') || ('A' ≤ c && c ≤ 'Z') || ('0' ≤ c && c ≤ '9') || c == '_' || c == '-'

/-- A decimal digit. -/
def isDigit (c : Char) : Bool := '0' ≤ c && c ≤ '9'

/-- A character that may stand in a document: no control but the tab and line ends, and no
character that is never to be interchanged. -/
def isAllowed (c : Char) : Bool :=
  let n := c.toNat
  n == 0x09 || n == 0x0A || n == 0x0D || (0x20 ≤ n && n ≤ 0x7E) || n == 0x85
    || (0xA0 ≤ n && n ≤ 0xD7FF) || (0xE000 ≤ n && n ≤ 0xFFFD) || 0x10000 ≤ n

/-- The byte order mark. -/
def byteOrderMark : Char := '\uFEFF'

/-- A place in a text. -/
structure Cursor where
  /-- The characters not yet passed. -/
  rest : Text
  /-- The number of octets passed. -/
  index : Nat
  /-- The line. -/
  line : Nat
  /-- The column. -/
  column : Nat
  deriving Repr

namespace Cursor

/-- The beginning of a text. -/
def ofText (s : Text) : Cursor := ⟨s, 0, 0, 0⟩

/-- The character at the cursor. -/
def head? (c : Cursor) : Option Char := c.rest.head?

/-- The character `n` further on. -/
def ahead? (c : Cursor) (n : Nat) : Option Char := c.rest[n]?

/-- Is the character `n` further on in the class?  The end of the text is in none. -/
def aheadIs (c : Cursor) (n : Nat) (p : Char → Bool) : Bool := (c.ahead? n).any p

/-- Is the character at the cursor in the class? -/
def seesIn (c : Cursor) (p : Char → Bool) : Bool := c.head?.any p

/-- Is this the character at the cursor? -/
def sees (c : Cursor) (x : Char) : Bool := c.head? == some x

/-- Has the text ended? -/
def ended (c : Cursor) : Bool := c.rest.isEmpty

/-- Is there a gap, a line break or the end of the text `n` further on? -/
def spaceAhead (c : Cursor) (n : Nat) : Bool :=
  match c.ahead? n with
  | some x => isGap x || isBreak x
  | none => true

/-- Is there a line break or the end of the text at the cursor? -/
def atLineEnd (c : Cursor) : Bool := c.ended || c.seesIn isBreak

/-- Pass one character of a line. -/
def next (c : Cursor) : Cursor :=
  match c.rest with
  | [] => c
  | x :: r => ⟨r, c.index + x.utf8Size, c.line, c.column + 1⟩

/-- Pass several characters of a line. -/
def skip (c : Cursor) (n : Nat) : Cursor :=
  ⟨c.rest.drop n, c.index + Text.byteLength (c.rest.take n), c.line, c.column + n⟩

/-- Pass a line break.  All kinds are read as a line feed, but for the two separators that are
kept. -/
def takeBreak (c : Cursor) : Text × Cursor :=
  match c.rest with
  | '\r' :: '\n' :: r => (['\n'], ⟨r, c.index + 2, c.line + 1, 0⟩)
  | '\u2028' :: r => (['\u2028'], ⟨r, c.index + 3, c.line + 1, 0⟩)
  | '\u2029' :: r => (['\u2029'], ⟨r, c.index + 3, c.line + 1, 0⟩)
  | x :: r => if isBreak x then (['\n'], ⟨r, c.index + x.utf8Size, c.line + 1, 0⟩) else ([], c)
  | [] => ([], c)

/-- Pass the characters of a class that holds no line break. -/
def takeWhile (c : Cursor) (p : Char → Bool) : Text × Cursor :=
  let found := c.rest.takeWhile p
  (found, ⟨c.rest.dropWhile p, c.index + Text.byteLength found, c.line, c.column + found.length⟩)

/-- Pass the characters of a class and forget them. -/
def skipWhile (c : Cursor) (p : Char → Bool) : Cursor := (c.takeWhile p).2

/-- Pass gaps and a comment, up to the end of the line; anything else there is a fault. -/
def endLine? (c : Cursor) : Option Cursor :=
  let c := c.skipWhile isGap
  let c := if c.sees '#' then c.skipWhile (!isBreak ·) else c
  if c.atLineEnd then some c.takeBreak.2 else none

/-- Do three of these characters stand at the beginning of a line, with space after them? -/
def atDocumentMark (c : Cursor) (x : Char) : Bool :=
  c.column == 0 && c.sees x && c.ahead? 1 == some x && c.ahead? 2 == some x && c.spaceAhead 3

/-- Does a document begin or end here? -/
def atDocumentEdge (c : Cursor) : Bool := c.atDocumentMark '-' || c.atDocumentMark '.'

end Cursor

end Yaml

end NameTables
