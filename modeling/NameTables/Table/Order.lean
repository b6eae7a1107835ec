import NameTables.Table.Basic

/-!
# Entries by value

When two entries share a value, the one further down the table stands for it.  `Ranking` is a
list of pairs with ascending keys in which a later insertion under the same key takes the place
of the earlier one; it serves for the order by value and for the slots of a flat array alike.

## Main definitions

* `Ranking`, `Ranking.insert`, `Ranking.ofList` — pairs in ascending order of their keys.
* `Table.byValue` — the entry that stands for each value.
* `RowOrder`, `Table.ordered` — the rows of a table in one of two orders.

## Main statements

* `Ranking.find?_insert` — inserting under a key changes what stands there and nothing else.
-/

namespace NameTables

/-- Pairs in ascending order of their keys. -/
abbrev Ranking (κ α : Type) := List (κ × α)

namespace Ranking

variable {κ α : Type} [DecidableEq κ]

/-- What stands under a key. -/
def find? (r : Ranking κ α) (k : κ) : Option α := (List.find? (·.1 = k) r).map Prod.snd

@[simp] theorem find?_nil (k : κ) : find? ([] : Ranking κ α) k = none := rfl

theorem find?_cons (k k' : κ) (a : α) (r : Ranking κ α) :
    find? ((k, a) :: r) k' = if k = k' then some a else find? r k' := by
  by_cases h : k = k' <;> simp [find?, h]

variable [LT κ] [DecidableLT κ]

/-- Put `a` under the key `k`, in place of what stood there. -/
def insert (k : κ) (a : α) : Ranking κ α → Ranking κ α
  | [] => [(k, a)]
  | (k', a') :: r =>
    if k = k' then (k, a) :: r
    else if k < k' then (k, a) :: (k', a') :: r
    else (k', a') :: insert k a r

@[simp] theorem insert_nil (k : κ) (a : α) : insert k a ([] : Ranking κ α) = [(k, a)] := rfl

/-- The ranking of a list of pairs; of two with one key the later is kept. -/
def ofList (l : List (κ × α)) : Ranking κ α := l.foldl (fun r (k, a) => insert k a r) []

@[simp] theorem ofList_nil : ofList ([] : List (κ × α)) = [] := rfl

/-- Inserting under a key changes what stands there and nothing else. -/
theorem find?_insert (k k' : κ) (a : α) (r : Ranking κ α) :
    find? (insert k a r) k' = if k = k' then some a else find? r k' := by
  induction r with
  | nil => rw [insert_nil, find?_cons]
  | cons entry r ih =>
    obtain ⟨key, b⟩ := entry
    by_cases hk : k = key
    · subst hk
      by_cases h : k = k' <;> simp [insert, find?_cons, h]
    · by_cases hlt : k < key
      · simp [insert, hk, hlt, find?_cons]
      · by_cases h : k = k'
        · subst h
          simp [insert, hk, hlt, find?_cons, ih, Ne.symm hk]
        · simp [insert, hk, hlt, find?_cons, ih, h]

end Ranking

/-- The order of the rows of a table. -/
inductive RowOrder
  /-- As first defined in the header. -/
  | encounter
  /-- By value, one row for each value. -/
  | ascending
  deriving DecidableEq, Repr

namespace Table

/-- The entry that stands for each value, in ascending order of the values. -/
def byValue (t : Table) : Ranking Int Entry := Ranking.ofList (t.entries.map fun e => (e.value, e))

/-- The rows of the table in an order. -/
def ordered (t : Table) : RowOrder → List Entry
  | .encounter => t.entries
  | .ascending => t.byValue.map Prod.snd

end Table

end NameTables
