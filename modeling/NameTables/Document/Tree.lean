import NameTables.Text.Basic

/-!
# Value trees

What a settings file holds, free of its notation: scalars, lists and records.  The keys of a
record are trees too, since one of the notations allows any value there.

## Main definitions

* `Numeral` — a number that is no natural number, as written.
* `Tree` — the values.
* `Tree.storable` — trees of bounded depth whose texts and numbers can be kept.
-/

namespace NameTables

/-- A decimal number: its digits, the places behind the point, and a power of ten. -/
structure Numeral where
  /-- Is there a minus sign? -/
  negative : Bool
  /-- All digits, read as one natural number. -/
  digits : Nat
  /-- The power of ten that the digits are multiplied by. -/
  exponent : Int
  deriving DecidableEq, Repr

/-- A value of a settings file. -/
inductive Tree
  /-- The value that stands for none. -/
  | null
  /-- A truth value. -/
  | bool (b : Bool)
  /-- A natural number. -/
  | natural (n : Nat)
  /-- Any other number. -/
  | number (n : Numeral)
  /-- A number too large to be kept. -/
  | outOfRange
  /-- A text. -/
  | text (s : Text)
  /-- A text with half of a surrogate pair in it. -/
  | brokenText
  /-- Values in order. -/
  | list (items : List Tree)
  /-- Values under keys, in order. -/
  | record (fields : List (Tree × Tree))

namespace Tree

/-- May the tree be kept as it is, when lists and records may nest `depth` deep?  All its texts
have to be whole and its numbers in range. -/
def storable : (depth : Nat) → Tree → Bool
  | _, .null => true
  | _, .bool _ => true
  | _, .natural _ => true
  | _, .number _ => true
  | _, .outOfRange => false
  | _, .text _ => true
  | _, .brokenText => false
  | 0, .list _ => false
  | 0, .record _ => false
  | depth + 1, .list items => items.all (storable depth)
  | depth + 1, .record fields => fields.all fun (k, v) => storable depth k && storable depth v

end Tree

end NameTables
