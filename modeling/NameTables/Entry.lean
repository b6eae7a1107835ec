import NameTables.Definition

/-!
# Entries

An entry is a macro with an integer value together with the macros that are defined as its name.

## Main definitions

* `Entry` — name, value, the literal as written, and the aliases.
* `Entry.display` — the names joined by slashes.
-/

namespace NameTables

/-- A named value and its other names. -/
structure Entry where
  /-- The name of the macro that gives the value. -/
  name : Text
  /-- The value. -/
  value : Int
  /-- The literal as it stands in the header. -/
  literal : Text
  /-- The names defined as this entry's name, in the order found. -/
  aliases : List Text
  deriving DecidableEq, Repr

namespace Entry

/-- The name and the aliases, with a slash before each alias. -/
def display (e : Entry) : Text := e.name ++ e.aliases.flatMap ('/' :: ·)

/-- Add a name the entry does not have yet. -/
def addAlias (e : Entry) (name : Text) : Entry :=
  if e.name = name ∨ name ∈ e.aliases then e else { e with aliases := e.aliases ++ [name] }

@[simp] theorem addAlias_name (e : Entry) (name : Text) : (e.addAlias name).name = e.name := by
  unfold addAlias; split <;> rfl

@[simp] theorem addAlias_value (e : Entry) (name : Text) : (e.addAlias name).value = e.value := by
  unfold addAlias; split <;> rfl

@[simp] theorem addAlias_literal (e : Entry) (name : Text) :
    (e.addAlias name).literal = e.literal := by
  unfold addAlias; split <;> rfl

end Entry

end NameTables
