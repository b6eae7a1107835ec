import NameTables.Document.Yaml.Cursor

/-!
# Names in YAML: anchors, tags and directives

An anchor names a node, a tag its type.  A tag is written in full between angle brackets, or as a
handle and a suffix; a directive at the head of a document says what a handle stands for.  Since
any octet may be written in a tag by its number, a tag is a byte string and not a text.

## Main definitions

* `Yaml.anchorName?` — the name of an anchor or alias.
* `Yaml.tag?` — a tag as handle and suffix.
* `Yaml.Directive`, `Yaml.directive?` — a directive.
-/

namespace NameTables

namespace Yaml

/-- The name of an anchor or an alias after its indicator; only some characters may follow it. -/
def anchorName? (c : Cursor) : Option (Text × Cursor) :=
  let (name, c) := c.takeWhile isWordChar
  let mayFollow := fun x => ['?', ':', ',', ']', '\x7d', '%', '@', '\x60'].contains x
  if name.isEmpty then none
  else if c.spaceAhead 0 || c.seesIn mayFollow then some (name, c)
  else none

/-! ### Tags -/

/-- A character of a tag that stands for itself; some only between angle brackets.  All of them
are ASCII. -/
def isTagChar (verbatim : Bool) (c : Char) : Bool :=
  isWordChar c || ";/?:@&=+$.!~*'()".toList.contains c || (verbatim && ",[]".toList.contains c)

/-- The octet of an ASCII character. -/
def octetOf (c : Char) : UInt8 := c.toNat.toUInt8

/-- An octet written as a percent sign and two hexadecimal digits. -/
def escapedOctet? : Text → Option (UInt8 × Text)
  | '%' :: a :: b :: r => (Literal.appendDigits? 16 0 [a, b]).map (·.toUInt8, r)
  | _ => none

/-- How many octets follow the first one of a character in UTF-8, going by its leading bits. -/
def octetsAfter? (first : UInt8) : Option Nat :=
  if first < 0x80 then some 0
  else if 0xC0 ≤ first ∧ first < 0xE0 then some 1
  else if 0xE0 ≤ first ∧ first < 0xF0 then some 2
  else if 0xF0 ≤ first ∧ first < 0xF8 then some 3
  else none

/-- The octets that finish a character.  Only their leading bits are looked at, so what they
encode need not be a character. -/
def laterOctets? : (count : Nat) → Cursor → Option (Bytes × Cursor)
  | 0, c => some ([], c)
  | count + 1, c => do
    let (b, _) ← escapedOctet? c.rest
    if b < 0x80 ∨ 0xC0 ≤ b then none
    let (bs, c) ← laterOctets? count (c.skip 3)
    return (b :: bs, c)

/-- A character written as its octets. -/
def escapedOctets? (c : Cursor) : Option (Bytes × Cursor) := do
  let (b, _) ← escapedOctet? c.rest
  let (bs, c) ← laterOctets? (← octetsAfter? b) (c.skip 3)
  return (b :: bs, c)

/-- The octets of a tag. -/
def tagOctets? (verbatim : Bool) : (fuel : Nat) → Cursor → Option (Bytes × Cursor)
  | 0, c => some ([], c)
  | fuel + 1, c =>
    match c.head? with
    | some x =>
      if x == '%' then
        (escapedOctets? c).bind fun (bs, c) =>
          (tagOctets? verbatim fuel c).map fun (later, c) => (bs ++ later, c)
      else if isTagChar verbatim x then
        (tagOctets? verbatim fuel c.next).map fun (later, c) => (octetOf x :: later, c)
      else some ([], c)
    | none => some ([], c)

/-- The octets before the first NUL, which ends a tag wherever it stands. -/
def upToNul (bs : Bytes) : Bytes := bs.takeWhile (· != 0)

/-- The tag that is an exclamation mark alone. -/
def bareTag : Bytes := [octetOf '!']

/-- A handle: an exclamation mark, a word, and perhaps another mark. -/
def handle? (c : Cursor) : Option (Text × Cursor) :=
  if c.sees '!' then
    let (word, c) := c.next.takeWhile isWordChar
    if c.sees '!' then some ('!' :: word ++ ['!'], c.next) else some ('!' :: word, c)
  else none

/-- Is this a handle with a mark at both ends? -/
def isNamedHandle (handle : Text) : Bool := 1 < handle.length && handle.getLast? == some '!'

/-- A tag, as a handle and a suffix.  Without a handle the suffix is the whole tag. -/
def tag? (inFlow : Bool) (c : Cursor) : Option (Text × Bytes × Cursor) := do
  let (handle, suffix, c) ←
    if c.ahead? 1 == some '<' then do
      let (octets, c) ← tagOctets? true (c.rest.length + 1) (c.skip 2)
      if !octets.isEmpty && c.sees '>' then some ([], upToNul octets, c.next) else none
    else do
      let (handle, c) ← handle? c
      let (octets, c) ← tagOctets? false (c.rest.length + 1) c
      if isNamedHandle handle then
        if octets.isEmpty then none else some (handle, upToNul octets, c)
      else
        let suffix := upToNul ((handle.drop 1).map octetOf ++ octets)
        if suffix.isEmpty then some ([], bareTag, c) else some (['!'], suffix, c)
  if c.spaceAhead 0 || (inFlow && c.sees ',') then return (handle, suffix, c) else none

/-! ### Directives -/

/-- A line at the head of a document that begins with a percent sign. -/
inductive Directive
  /-- The version of the notation. -/
  | version (major minor : Nat)
  /-- What a handle stands for. -/
  | handle (handle : Text) (meaning : Bytes)
  deriving DecidableEq, Repr

/-- A number of at most nine digits. -/
def versionNumber? (c : Cursor) : Option (Nat × Cursor) :=
  let (digits, c) := c.takeWhile isDigit
  if digits.isEmpty || decide (9 < digits.length) then none
  else (Literal.appendDigits? 10 0 digits).map (·, c)

/-- The value of a version directive. -/
def version? (c : Cursor) : Option (Directive × Cursor) := do
  let (major, c) ← versionNumber? (c.skipWhile isGap)
  if !c.sees '.' then none
  let (minor, c) ← versionNumber? c.next
  return (.version major minor, c)

/-- The value of a handle directive. -/
def handleMeaning? (c : Cursor) : Option (Directive × Cursor) := do
  let (handle, c) ← handle? (c.skipWhile isGap)
  if handle ≠ ['!'] ∧ !isNamedHandle handle then none
  if !c.seesIn isGap then none
  let (meaning, c) ← tagOctets? true (c.rest.length + 1) (c.skipWhile isGap)
  if meaning.isEmpty ∨ !c.spaceAhead 0 then none
  return (.handle handle (upToNul meaning), c)

/-- A directive after its percent sign, to the end of its line. -/
def directive? (c : Cursor) : Option (Directive × Cursor) := do
  let (name, c) := c.takeWhile isWordChar
  if name.isEmpty ∨ !c.spaceAhead 0 then none
  let (directive, c) ←
    if name = "YAML".toList then version? c
    else if name = "TAG".toList then handleMeaning? c
    else none
  return (directive, ← c.endLine?)

end Yaml

end NameTables
