import NameTables.Artefact.Comment
import NameTables.Failure
import NameTables.Table.Order

/-!
# Flat arrays

An array of names indexed by value, and the routine that fills it.  Entries with a negative value
have no slot; of two entries with one value the later takes the slot.  An entry chosen as the
bound takes no slot itself, but the array reaches as far as its value.

## Main definitions

* `Slots`, `Slots.ofTable` — the length of the array and its assigned slots.
* `Slots.limit` — the length no array may exceed.
* `Slots.render` — the artefact.
-/

namespace NameTables

/-- The slots of a flat array. -/
structure Slots where
  /-- The length of the array. -/
  size : Nat
  /-- The assigned slots in ascending order of their index. -/
  assigned : Ranking Nat Entry
  deriving DecidableEq, Repr

namespace Slots

/-- The index of a value, which must not be negative. -/
def indexOf? : Int → Option Nat
  | .ofNat n => some n
  | .negSucc _ => none

/-- The assigned slots: every entry but the bound under its value, later ones over earlier. -/
def assignedIn (t : Table) (bound : Option Text) : Ranking Nat Entry :=
  Ranking.ofList <| (t.entries.filter fun e => some e.name ≠ bound).filterMap fun e =>
    (indexOf? e.value).map (·, e)

/-- The index of the bound, if the table has it and its value is not negative. -/
def boundIndex? (t : Table) (bound : Option Text) : Option Nat :=
  bound.bind fun name => (t.find? name).bind fun e => indexOf? e.value

/-- The greatest index that is assigned or is the bound's. -/
def greatest? (t : Table) (bound : Option Text) : Option Nat :=
  ((assignedIn t bound).map Prod.fst ++ (boundIndex? t bound).toList).max?

/-- The length no array may exceed. -/
def limit : Nat := 65536

/-- The slots of a table, unless it needs too long an array. -/
def ofTable (t : Table) (bound : Option Text) : Except Failure Slots :=
  match greatest? t bound with
  -- nothing has an index, so nothing is assigned either
  | none => .ok ⟨0, assignedIn t bound⟩
  | some n =>
    if n + 1 ≤ limit then .ok ⟨n + 1, assignedIn t bound⟩
    else .error (.settings (.tooSparse n limit))

/-- The entry in a slot. -/
def get? (s : Slots) (i : Nat) : Option Entry := Ranking.find? s.assigned i

/-- The width of the index column: that of the last index of the array. -/
def indexWidth (s : Slots) : Nat := (Text.ofNat (s.size - 1)).length

/-- The line that fills one slot. -/
def assignment (arrayName : Text) (width index : Nat) (e : Entry) : Text :=
  "    ".toList ++ arrayName ++ "[ ".toList ++ Text.padLeft width (Text.ofNat index)
    ++ " ] = \"".toList ++ e.display ++ "\";\n".toList

/-- The text in front of the assignments. -/
def opening (comment arrayName : Text) (size : Nat) : Text :=
  commentLine comment ++ "\n\n".toList
    ++ "char *".toList ++ arrayName ++ '[' :: Text.ofNat size ++ "] = \x7b0\x7d;\n\n".toList
    ++ "void init_".toList ++ arrayName ++ " (void) \x7b\n".toList

/-- The text after the assignments. -/
def closing : Text := "\x7d\n".toList

/-- The artefact with given slots. -/
def text (s : Slots) (comment arrayName : Text) : Text :=
  opening comment arrayName s.size
    ++ s.assigned.flatMap (fun (index, e) => assignment arrayName s.indexWidth index e) ++ closing

/-- The artefact: the array and the routine that fills it. -/
def render (t : Table) (comment arrayName : Text) (bound : Option Text) : Except Failure Text :=
  (ofTable t bound).map fun s => s.text comment arrayName

end Slots

end NameTables
