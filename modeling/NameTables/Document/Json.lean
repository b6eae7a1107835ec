import NameTables.Document.Double
import NameTables.Literal

/-!
# Reading JSON

The grammar of RFC 8259 and nothing beyond it: no comments, no trailing commas, no byte order
mark, no text after the value.  A text may contain half a surrogate pair as an escape; it is then
read as a broken text, which only matters where the text is used.  The same goes for a number out
of the range of double precision, which is told the quick way.

## Main definitions

* `Json.stringAt?`, `Json.numberAt?` — one scalar and the rest.
* `Json.valueAt?` — one value and the rest.
* `Tree.ofJson?` — a whole document.
-/

namespace NameTables

namespace Json

/-- A space, tab, line feed or carriage return. -/
def isSpace (c : Char) : Bool := c == ' ' || c == '\t' || c == '\n' || c == '\r'

/-- The text without spaces at its beginning. -/
def skipSpace (s : Text) : Text := s.dropWhile isSpace

/-! ### Strings -/

/-- A character of a string, or a code unit written as an escape. -/
inductive Piece
  /-- A character as it stands, or a short escape. -/
  | char (c : Char)
  /-- A UTF-16 code unit. -/
  | code (n : Nat)
  deriving DecidableEq, Repr

/-- The number that four hexadecimal digits denote. -/
def fourDigits? (a b c d : Char) : Option Nat := Literal.appendDigits? 16 0 [a, b, c, d]

/-- The character that a short escape stands for. -/
def shortEscape? : Char → Option Char
  | '\x22' => some '\x22'
  | '\\' => some '\\'
  | '/' => some '/'
  | 'b' => some '\x08'
  | 'f' => some '\x0c'
  | 'n' => some '\n'
  | 'r' => some '\r'
  | 't' => some '\t'
  | _ => none

/-- The pieces of a string up to its closing quote, and the rest. -/
def piecesAt? : Text → Option (List Piece × Text)
  | [] => none
  | '\x22' :: s => some ([], s)
  | '\\' :: 'u' :: a :: b :: c :: d :: s =>
    (fourDigits? a b c d).bind fun n => (piecesAt? s).map fun (ps, r) => (.code n :: ps, r)
  | '\\' :: e :: s =>
    (shortEscape? e).bind fun c => (piecesAt? s).map fun (ps, r) => (.char c :: ps, r)
  | c :: s =>
    if c = '\\' ∨ c.toNat < 0x20 then none
    else (piecesAt? s).map fun (ps, r) => (.char c :: ps, r)

/-- The first unit of a surrogate pair. -/
def isHigh (n : Nat) : Bool := 0xD800 ≤ n && n < 0xDC00

/-- The second unit of a surrogate pair. -/
def isLow (n : Nat) : Bool := 0xDC00 ≤ n && n < 0xE000

/-- The text of the pieces, if every surrogate is one of a pair. -/
def assemble? : List Piece → Option Text
  | [] => some []
  | .char c :: ps => (assemble? ps).map (c :: ·)
  | .code high :: .code low :: ps =>
    -- half a pair on either side breaks the text
    if isHigh high then
      if isLow low then
        (assemble? ps).map (Char.ofNat (0x10000 + (high - 0xD800) * 0x400 + (low - 0xDC00)) :: ·)
      else none
    else if isLow high then none
    else (assemble? (.code low :: ps)).map (Char.ofNat high :: ·)
  | .code n :: ps =>
    if isHigh n || isLow n then none else (assemble? ps).map (Char.ofNat n :: ·)

/-- A string after its opening quote, and the rest. -/
def stringAt? (s : Text) : Option (Tree × Text) :=
  (piecesAt? s).map fun (ps, r) =>
    match assemble? ps with
    | some t => (.text t, r)
    | none => (.brokenText, r)

/-! ### Numbers -/

/-- A decimal digit. -/
def isDigit (c : Char) : Bool := '0' ≤ c && c ≤ '9'

/-- A non-empty run of digits, and the rest. -/
def digitsAt? (s : Text) : Option (Text × Text) :=
  match s.takeWhile isDigit with
  | [] => none
  | digits => some (digits, s.dropWhile isDigit)

/-- The whole part of a number: a zero alone, or digits that do not begin with zero. -/
def wholeAt? : Text → Option (Text × Text)
  | '0' :: s => if (s.head?.map isDigit).getD false then none else some (['0'], s)
  | s => digitsAt? s

/-- The digits after a decimal point, if there is one. -/
def fractionAt? : Text → Option (Option Text × Text)
  | '.' :: s => (digitsAt? s).map fun (digits, r) => (some digits, r)
  | s => some (none, s)

/-- The number that digits denote. -/
def numberOf (digits : Text) : Nat := (Literal.appendDigits? 10 0 digits).getD 0

/-- A signed exponent. -/
def signedAt? : Text → Option (Int × Text)
  | '+' :: s => (digitsAt? s).map fun (digits, r) => ((numberOf digits : Int), r)
  | '-' :: s => (digitsAt? s).map fun (digits, r) => (-(numberOf digits : Int), r)
  | s => (digitsAt? s).map fun (digits, r) => ((numberOf digits : Int), r)

/-- The exponent, if there is one. -/
def exponentAt? : Text → Option (Option Int × Text)
  | 'e' :: s => (signedAt? s).map fun (e, r) => (some e, r)
  | 'E' :: s => (signedAt? s).map fun (e, r) => (some e, r)
  | s => some (none, s)

/-- A number without its sign, and the rest. -/
def unsignedAt? (negative : Bool) (s : Text) : Option (Tree × Text) := do
  let (whole, s) ← wholeAt? s
  let (fraction, s) ← fractionAt? s
  let (exponent, s) ← exponentAt? s
  if !(Double.Parts.ofDigits whole (fraction.getD []) (exponent.getD 0)).inRange then
    return (.outOfRange, s)
  -- minus zero is no natural number either
  match negative, fraction, exponent with
  | false, none, none => return (.natural (numberOf whole), s)
  | _, _, _ =>
    let behind := fraction.getD []
    return (.number ⟨negative, numberOf (whole ++ behind),
      exponent.getD 0 - (behind.length : Int)⟩, s)

/-- A number, and the rest. -/
def numberAt? : Text → Option (Tree × Text)
  | '-' :: s => unsignedAt? true s
  | s => unsignedAt? false s

/-! ### Values -/

/-- A fixed word, and the rest. -/
def wordAt? (word : String) (value : Tree) (s : Text) : Option (Tree × Text) :=
  (Text.dropLead? word.toList s).map (value, ·)

mutual

/-- A value at the beginning of the text, and the rest. -/
def valueAt? : (fuel : Nat) → Text → Option (Tree × Text)
  | 0, _ => none
  | fuel + 1, s =>
    match s with
    | '\x7b' :: s =>
      match skipSpace s with
      | '\x7d' :: r => some (.record [], r)
      | s => (membersAt? fuel s).map fun (fields, r) => (.record fields, r)
    | '[' :: s =>
      match skipSpace s with
      | ']' :: r => some (.list [], r)
      | s => (itemsAt? fuel s).map fun (items, r) => (.list items, r)
    | '\x22' :: s => stringAt? s
    | 'n' :: _ => wordAt? "null" .null s
    | 't' :: _ => wordAt? "true" (.bool true) s
    | 'f' :: _ => wordAt? "false" (.bool false) s
    | _ => numberAt? s

/-- The items of a list up to its closing bracket, and the rest. -/
def itemsAt? : (fuel : Nat) → Text → Option (List Tree × Text)
  | 0, _ => none
  | fuel + 1, s => do
    let (item, s) ← valueAt? fuel s
    match skipSpace s with
    | ',' :: s =>
      let (items, r) ← itemsAt? fuel (skipSpace s)
      return (item :: items, r)
    | ']' :: r => return ([item], r)
    | _ => none

/-- The fields of a record up to its closing brace, and the rest. -/
def membersAt? : (fuel : Nat) → Text → Option (List (Tree × Tree) × Text)
  | 0, _ => none
  | fuel + 1, s => do
    match s with
    | '\x22' :: s =>
      let (key, s) ← stringAt? s
      match skipSpace s with
      | ':' :: s =>
        let (value, s) ← valueAt? fuel (skipSpace s)
        match skipSpace s with
        | ',' :: s =>
          let (fields, r) ← membersAt? fuel (skipSpace s)
          return ((key, value) :: fields, r)
        | '\x7d' :: r => return ([(key, value)], r)
        | _ => none
      | _ => none
    | _ => none

end

end Json

/-- The value of a JSON document. -/
def Tree.ofJson? (s : Text) : Option Tree := do
  let (value, r) ← Json.valueAt? (2 * s.length + 2) (Json.skipSpace s)
  if (Json.skipSpace r).isEmpty then return value else none

end NameTables
