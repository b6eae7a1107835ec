import NameTables.Document.Tree

/-!
# Reading values of a notation

Settings are decoded the same way from every notation.  What a notation takes for a text, a
number or a record is gathered in a `Reading`; the decoder is written against it.  Each function
fails where the value is not of the wanted kind.  What else reading a value brings about is left
to the notation, which names a monad for it.

A record may be given by its keys or, where the notation allows that, as the list of its fields in
their declared order.

## Main definitions

* `Fields` — the fields of a record, by key or by position.
* `Fields.assign?` — the values of the declared fields.
* `Reading`, `orFail` — how a notation is read.
* `Tree.reading` — how a value tree is read.
-/

namespace NameTables

/-- The fields of a record. -/
inductive Fields (κ ν : Type)
  /-- Under their keys. -/
  | named (fields : List (κ × ν))
  /-- In their declared order. -/
  | inOrder (values : List ν)

namespace Fields

variable {ν : Type}

/-- The value under a key, which must not occur twice; the key may be missing. -/
def single? (key : Text) (fields : List (Text × ν)) : Option (Option ν) :=
  match fields.filter (·.1 == key) with
  | [] => some none
  | [(_, v)] => some (some v)
  | _ => none

/-- The values of the declared fields, each `none` when it is missing.  Other keys are passed
over; a declared key that occurs twice and a value too many are faults. -/
def assign? (declared : List String) : Fields Text ν → Option (List (Option ν))
  | .named fields => declared.mapM fun key => single? key.toList fields
  | .inOrder values =>
    if values.length ≤ declared.length then
      some (values.map some ++ List.replicate (declared.length - values.length) none)
    else none

end Fields

/-- How values `ν` of a notation are read in a monad `m`. -/
structure Reading (m : Type → Type) (ν : Type) where
  /-- A text. -/
  text? : ν → m Text
  /-- A natural number below `2 ^ 64`. -/
  natural? : ν → m Nat
  /-- A value that may stand for none. -/
  optional? : ν → m (Option ν)
  /-- A list. -/
  items? : ν → m (List ν)
  /-- A record with fixed fields. -/
  fields? : ν → m (Fields Text ν)
  /-- A record whose fields depend on one of them, the keys not yet taken for texts. -/
  variant? : ν → m (Fields Tree ν)
  /-- The value as a tree, as it stands inside such a record. -/
  tree? : ν → m Tree

/-- A value that is there, or failure. -/
def orFail {m : Type → Type} [Monad m] [MonadExceptOf Unit m] {α : Type} : Option α → m α
  | some a => pure a
  | none => throw ()

namespace Tree

/-- The text of a whole text. -/
def text? : Tree → Option Text
  | .text s => some s
  | _ => none

/-- The greatest number a word of 64 bits holds. -/
def greatestWord : Nat := 18446744073709551615

/-- How deep lists and records may nest in a value tree, the value itself counted. -/
def depthLimit : Nat := 127

/-- How deep a record inside a target of the settings stands. -/
def variantDepth : Nat := 4

/-- A value tree as it is: a text is a text, `null` stands for none, and a record may be given as
a list. -/
def reading : Reading Option Tree where
  text? := text?
  natural?
    | .natural n => if n ≤ greatestWord then some n else none
    | _ => none
  optional?
    | .null => some none
    | v => some (some v)
  items?
    | .list items => some items
    | _ => none
  fields?
    | .record fields => (fields.mapM fun field => (text? field.1).map (·, field.2)).map .named
    | .list items => some (.inOrder items)
    | _ => none
  variant?
    | .record fields =>
      if fields.all fun field => storable 0 field.1 then some (.named fields) else none
    | .list items => some (.inOrder items)
    | _ => none
  tree? v := if v.storable (depthLimit - variantDepth) then some v else none

end Tree

end NameTables
