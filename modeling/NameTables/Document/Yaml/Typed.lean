import NameTables.Document.Double
import NameTables.Document.Tree
import NameTables.Document.Yaml.Node
import NameTables.Text.Utf8

/-!
# The types of YAML scalars

Where no type is expected, a plain scalar is read as the value it looks like: none, a truth value,
an integer in one of four radices, a number with a point, or else a text.  A tag asks for one of
these types.

## Main definitions

* `Yaml.isNone`, `Yaml.truth?`, `Yaml.natural?`, `Yaml.negative?`, `Yaml.decimal?` — what a plain
  scalar looks like.
* `Yaml.Scalar.tree?` — the value of a scalar.
-/

namespace NameTables

namespace Yaml

/-- A spelling of none. -/
def isNone (s : Text) : Bool :=
  ["null", "Null", "NULL", "~"].any (·.toList == s)

/-- A truth value. -/
def truth? (s : Text) : Option Bool :=
  if ["true", "True", "TRUE"].any (·.toList == s) then some true
  else if ["false", "False", "FALSE"].any (·.toList == s) then some false
  else none

/-! ### Integers -/

/-- The text without a plus sign in front. -/
def dropPlus : Text → Text
  | '+' :: s => s
  | s => s

/-- Does the text begin with a sign? -/
def beginsWithSign : Text → Bool
  | '+' :: _ => true
  | '-' :: _ => true
  | _ => false

/-- Digits that are more than one and begin with zero, with or without a sign: a text, not a
number. -/
def isPaddedDigits (s : Text) : Bool :=
  match (if beginsWithSign s then s.drop 1 else s) with
  | '0' :: c :: r => (c :: r).all isDigit
  | _ => false

/-- The digits after a mark for their radix, and its base. -/
def marked? : Text → Option (Nat × Text)
  | '0' :: 'x' :: r => some (16, r)
  | '0' :: 'o' :: r => some (8, r)
  | '0' :: 'b' :: r => some (2, r)
  | _ => none

/-- The number that digits denote, marked for their radix or decimal. -/
def magnitude? (s : Text) : Option Nat :=
  match marked? s with
  | some (base, digits) => Literal.magnitude? base digits
  | none => if isPaddedDigits s then none else Literal.magnitude? 10 s

/-- A natural number, perhaps with a plus sign. -/
def natural? (s : Text) : Option Nat := magnitude? (dropPlus s)

/-- The magnitude of a negative integer. -/
def negative? : Text → Option Nat
  | '-' :: s => magnitude? s
  | _ => none

/-! ### Numbers with a point -/

/-- The digits at the beginning of a text, and the rest. -/
def spanDigits (s : Text) : Text × Text := (s.takeWhile isDigit, s.dropWhile isDigit)

/-- A power of ten at the end of a number. -/
def powerOfTen? : Text → Option Int
  | [] => some 0
  | e :: s =>
    if e = 'e' ∨ e = 'E' then
      match s with
      | '-' :: s => (Literal.magnitude? 10 s).map fun n => -(n : Int)
      | s => (Literal.magnitude? 10 (dropPlus s)).map fun n => (n : Int)
    else none

/-- A number in decimal digits, with a point or a power of ten or both. -/
def unsignedDecimal? (negative : Bool) (s : Text) : Option Numeral := do
  let (whole, s) := spanDigits s
  let (behind, s) := match s with
    | '.' :: s => spanDigits s
    | s => ([], s)
  let n ← Literal.magnitude? 10 (whole ++ behind)
  return ⟨negative, n, (← powerOfTen? s) - (behind.length : Int)⟩

/-- The number that stands for an infinity or for no number, which no finite one does. -/
def beyond (negative : Bool) : Numeral := ⟨negative, 0, 0⟩

/-- A number that is no integer.  It is a text when it is out of range. -/
def decimal? (s : Text) : Option Numeral :=
  let unsigned := dropPlus s
  if beginsWithSign s && beginsWithSign (s.drop 1) then none
  else if [".inf", ".Inf", ".INF"].any (·.toList == unsigned) then some (beyond false)
  else if ["-.inf", "-.Inf", "-.INF"].any (·.toList == s) then some (beyond true)
  else if [".nan", ".NaN", ".NAN"].any (·.toList == s) then some (beyond false)
  else
    (match s with
      | '-' :: r => unsignedDecimal? true r
      | _ => unsignedDecimal? false unsigned).filter Numeral.inRange

/-! ### Scalars -/

/-- An integer as a value.  One that takes more than 64 bits but fits 128 is a fault. -/
def integer? (s : Text) : Option (Option Tree) :=
  match natural? s, negative? s with
  | some n, _ =>
    if n < Nat.pow 2 64 then some (some (.natural n)) else if n < Nat.pow 2 128 then some none else none
  | none, some n =>
    if n ≤ Nat.pow 2 63 then some (some (.number ⟨true, n, 0⟩))
    else if n ≤ Nat.pow 2 127 then some none else none
  | none, none => none

/-- The value that a plain scalar without a tag looks like. -/
def untagged? (s : Text) : Option Tree :=
  if s.isEmpty || isNone s then some .null
  else
    match truth? s with
    | some b => some (.bool b)
    | none =>
      match integer? s with
      | some value => value
      | none =>
        match (if isPaddedDigits s then none else decimal? s) with
        | some n => some (.number n)
        | none => some (.text s)

/-- The tag of a type of the notation. -/
def typeTag (name : String) : Bytes := ("tag:yaml.org,2002:" ++ name).toList.map octetOf

/-- Is this the name of a tag of the document's own?  It begins with an exclamation mark. -/
def isOwnTag (tag : Bytes) : Bool := tag.head? == some (octetOf '!')

/-- Is this a tag of the document's own whose name, the mark not counted, can be read as a text?
No value here has such a type. -/
def isLocalTag (tag : Bytes) : Bool :=
  isOwnTag tag && (if tag = bareTag then tag else tag.drop 1).decode?.isSome

/-- The value of a scalar without a type. -/
def Scalar.untagged? (s : Scalar) : Option Tree :=
  if s.style = .plain then Yaml.untagged? s.text else some (.text s.text)

/-- The value of a scalar of a type. -/
def Scalar.tagged? (tag : Bytes) (s : Scalar) : Option Tree :=
  if isLocalTag tag then none
  else if isOwnTag tag then s.untagged?
  else if tag = typeTag "bool" then (truth? s.text).map .bool
  else if tag = typeTag "int" then (integer? s.text).join
  else if tag = typeTag "float" then (decimal? s.text).map .number
  else if tag = typeTag "null" then if isNone s.text then some .null else none
  else some (.text s.text)

/-- The value of a scalar. -/
def Scalar.tree? (s : Scalar) : Option Tree :=
  match s.tag with
  | some tag => s.tagged? tag
  | none => s.untagged?

end Yaml

end NameTables
