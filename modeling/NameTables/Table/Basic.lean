import NameTables.Literal
import NameTables.Table.Index

/-!
# Tables of named values

A table is built from definitions in two passes.  The first turns each definition with an integer
literal into an entry; defining a name again changes the entry where it stands.  The second
attaches each other definition to the entry its value names, so an alias may stand before or
after its target.  What names no entry is kept apart.  Entries are found by an index of their names.

## Main definitions

* `Table` — the entries in the order of first definition, and the definitions left over.
* `Table.define`, `Table.attach` — one step of the first and of the second pass.
* `Table.build` — both passes.
* `Table.find?`, `Table.aliasCount`, `Table.greatest?` — what is asked of a table.
-/

namespace NameTables

/-- Named values with their aliases. -/
structure Table where
  /-- The entries, in the order in which their names were first given a value. -/
  entries : List Entry
  /-- Where the entry of a name stands. -/
  index : NameIndex
  /-- The definitions whose value is neither a literal nor the name of an entry. -/
  unresolved : List Definition
  /-- The index is in step with the entries. -/
  indexed : index.Tells entries
  deriving DecidableEq, Repr

namespace Table

/-- The table without entries. -/
def empty : Table := ⟨[], [], [], NameIndex.tells_nil⟩

/-- The entry with a name. -/
def find? (t : Table) (name : Text) : Option Entry :=
  (t.index.position? name).bind fun i => t.entries[i]?

/-- Change the entry at a position into another one with the same name. -/
def change (t : Table) (i : Nat) (f : Entry → Entry) (hf : ∀ e, (f e).name = e.name) : Table :=
  { t with entries := t.entries.modify i f, indexed := t.indexed.modify hf i }

/-- Add an entry with a new name at the end. -/
def push (t : Table) (e : Entry) (hnew : t.index.position? e.name = none) : Table :=
  { t with
    entries := t.entries ++ [e]
    index := (e.name, t.entries.length) :: t.index
    indexed := t.indexed.concat hnew }

/-- Give `name` a value: in place if the table has the name, at the end otherwise. -/
def define (t : Table) (d : Definition) (value : Int) : Table :=
  match h : t.index.position? d.name with
  | some i => t.change i (fun e => { e with value := value, literal := d.value }) fun _ => rfl
  | none => t.push ⟨d.name, value, d.value, []⟩ h

/-- Enter a definition that has an integer literal; any other is left for the second pass. -/
def defineLiteral (t : Table) (d : Definition) : Table :=
  match Literal.value? d.value with
  | some value => t.define d value
  | none => t

/-- The name of the macro that a value refers to: what follows the stem. -/
def targetOf? (stem : Text) (d : Definition) : Option Text := Text.dropLead? stem d.value

/-- Attach a definition to the entry its value names, or keep it as unresolved. -/
def attach (stem : Text) (t : Table) (d : Definition) : Table :=
  match (targetOf? stem d).bind t.index.position? with
  | some i => t.change i (·.addAlias d.name) fun e => e.addAlias_name d.name
  | none => { t with unresolved := t.unresolved ++ [d] }

/-- A definition whose value is no integer literal. -/
def isCandidate (d : Definition) : Bool := (Literal.value? d.value).isNone

/-- The table of the given definitions. -/
def build (stem : Text) (definitions : List Definition) : Table :=
  -- all literals first, so that an alias may stand before its target
  (definitions.filter isCandidate).foldl (attach stem) (definitions.foldl defineLiteral empty)

/-- The number of aliases of all entries together. -/
def aliasCount (t : Table) : Nat := total (t.entries.map fun e => e.aliases.length)

/-- The greatest value of an entry. -/
def greatest? (t : Table) : Option Int := (t.entries.map Entry.value).max?

end Table

end NameTables
