import NameTables.Document.Tree

/-!
# Writing JSON

Values over several lines, two spaces deeper at each level; an empty list or record stays on its
line.  Only quotes, backslashes and control characters are escaped.

## Main definitions

* `JsonText.string` — a text in quotes.
* `Tree.toJson` — a value over several lines.
-/

namespace NameTables

namespace JsonText

/-- One character inside quotes. -/
def escape (c : Char) : Text :=
  if c = '\x22' then "\\\"".toList
  else if c = '\\' then "\\\\".toList
  else if c = '\x08' then "\\b".toList
  else if c = '\x0c' then "\\f".toList
  else if c = '\n' then "\\n".toList
  else if c = '\r' then "\\r".toList
  else if c = '\t' then "\\t".toList
  else if c.toNat < 0x20 then
    let digits := Nat.toDigits 16 c.toNat
    "\\u".toList ++ List.replicate (4 - digits.length) '0' ++ digits
  else [c]

/-- A text in quotes. -/
def string (s : Text) : Text := '\x22' :: s.flatMap escape ++ ['\x22']

/-- A line end, and spaces up to a level. -/
def newLine (level : Nat) : Text := '\n' :: List.replicate (2 * level) ' '

/-- A number as digits and a power of ten. -/
def numeral (n : Numeral) : Text :=
  (if n.negative then ['-'] else []) ++ Text.ofNat n.digits ++
    (if n.exponent = 0 then [] else 'e' :: Text.ofInt n.exponent)

end JsonText

open JsonText

mutual

/-- A value at a level of indentation. -/
def Tree.jsonAt (level : Nat) : Tree → Text
  | .null => "null".toList
  | .bool true => "true".toList
  | .bool false => "false".toList
  | .natural n => Text.ofNat n
  | .number n => numeral n
  | .outOfRange => "null".toList
  | .text s => string s
  | .brokenText => string []
  | .list [] => "[]".toList
  | .list (item :: items) =>
    '[' :: newLine (level + 1) ++ item.jsonAt (level + 1) ++ jsonItems level items
  | .record [] => "\x7b\x7d".toList
  | .record (field :: fields) =>
    '\x7b' :: newLine (level + 1) ++ jsonField level field ++ jsonFields level fields

/-- The items after the first, and the closing bracket. -/
def jsonItems (level : Nat) : List Tree → Text
  | [] => newLine level ++ [']']
  | item :: items =>
    ',' :: newLine (level + 1) ++ item.jsonAt (level + 1) ++ jsonItems level items

/-- A key and its value. -/
def jsonField (level : Nat) : Tree × Tree → Text
  | (key, value) => key.jsonAt (level + 1) ++ ": ".toList ++ value.jsonAt (level + 1)

/-- The fields after the first, and the closing brace. -/
def jsonFields (level : Nat) : List (Tree × Tree) → Text
  | [] => newLine level ++ ['\x7d']
  | field :: fields =>
    ',' :: newLine (level + 1) ++ jsonField level field ++ jsonFields level fields

end

/-- A value as a JSON document. -/
def Tree.toJson (t : Tree) : Text := t.jsonAt 0

end NameTables
