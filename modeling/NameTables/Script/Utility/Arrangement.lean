import NameTables.Script.Utility.Basic

/-!
# Names on lines

Names are printed one a line, in columns that are as narrow as their names allow, or behind one another
between commas.  There are as many columns as a line has room for.

## Main definitions

* `Arrangement` — how names are printed.
* `columnWidths` — how wide so many columns are.
* `columnCount` — how many of them there are.
* `Page.text` — names on lines.
-/

namespace NameTables.Script.Utility

/-- How names are printed. -/
inductive Arrangement
  /-- One a line. -/
  | single
  /-- One a line, with all that is known. -/
  | long
  /-- In columns, from the top to the bottom of each of them, or else across them. -/
  | columns (down : Bool)
  /-- With commas between them. -/
  | commas
  deriving DecidableEq

/-- How wide a column is at least. -/
def leastColumn : Nat := 3

/-- The column among `n` of the name with number `k` out of `count`. -/
def columnOf (down : Bool) (count n k : Nat) : Nat :=
  if down then k / ((count + n - 1) / n) else k % n

/-- How wide `n` columns are for names of these widths.  All but the last one have two blanks behind
their names. -/
def columnWidths (down : Bool) (widths : List Nat) (n : Nat) : List Nat :=
  let placed := widths.zipIdx.map fun (width, k) => (columnOf down widths.length n k, width)
  (List.range n).map fun i =>
    let gap := if i + 1 = n then 0 else 2
    (placed.filter (·.1 = i)).foldl (fun most x => max most (x.2 + gap)) leastColumn

/-- The number of columns that a line of a width has room for; there is one at least. -/
def columnCount (down : Bool) (room : Nat) (widths : List Nat) : Nat :=
  let most := (room + leastColumn - 1) / leastColumn
  let most := if 0 < most && most < widths.length then most else widths.length
  ((List.range most).reverse.find? fun i =>
    i = 0 || total (columnWidths down widths (i + 1)) < room).getD 0 + 1

/-- What names are printed on. -/
structure Page where
  /-- How wide a line is; 0 stands for no bound. -/
  room : Nat
  /-- How far tabs are apart; for 0 there are none. -/
  tab : Nat
  /-- What ends a line. -/
  stop : Char

namespace Page

/-- Blanks and tabs from one place of a line to another. -/
def gap (p : Page) (goal : Nat) : (fuel : Nat) → (place : Nat) → Text
  | 0, _ => []
  | fuel + 1, place =>
    if goal ≤ place then []
    else if p.tab ≠ 0 && (place + 1) / p.tab < goal / p.tab then
      '\t' :: p.gap goal fuel (place + p.tab - place % p.tab)
    else ' ' :: p.gap goal fuel (place + 1)

/-- A line of names with their widths, in columns of these widths. -/
def row (p : Page) : (place : Nat) → (columns : List Nat) → List (Text × Nat) → Text
  | _, _, [] => [p.stop]
  | _, _, [(name, _)] => name ++ [p.stop]
  | place, columns, (name, width) :: rest =>
    let goal := place + columns.headD 0
    name ++ p.gap goal goal (place + width) ++ p.row goal columns.tail rest

/-- Names with their widths, in columns. -/
def inColumns (p : Page) (down : Bool) (names : List (Text × Nat)) : Text :=
  let widths := names.map Prod.snd
  let count := columnCount down p.room widths
  let columns := columnWidths down widths count
  let rows := (names.length + count - 1) / count
  let placed := names.zipIdx
  (List.range rows).flatMap fun r =>
    let isHere := fun k : Nat => if down then k % rows = r else k / count = r
    p.row 0 columns ((placed.filter (isHere ·.2)).map Prod.fst)

/-- Names with their widths behind one another, with a mark and a blank or the end of a line between
them. -/
def behindOneAnother (p : Page) (mark : Char) : (place : Nat) → List (Text × Nat) → Text
  | _, [] => [p.stop]
  | _, [(name, _)] => name ++ [p.stop]
  | place, (name, width) :: (next, following) :: rest =>
    let place := place + width
    if p.room = 0 || place + following + 2 < p.room then
      name ++ [mark, ' '] ++ p.behindOneAnother mark (place + 2) ((next, following) :: rest)
    else name ++ [mark, p.stop] ++ p.behindOneAnother mark 0 ((next, following) :: rest)

/-- Names on lines. -/
def text (p : Page) (a : Arrangement) (names : List Text) : Text :=
  let sized := names.map fun name => (name, (symbolsOf name).length)
  if names.isEmpty then []
  else
    match a with
    | .columns down =>
      if p.room = 0 then p.behindOneAnother ' ' 0 sized else p.inColumns down sized
    | .commas => p.behindOneAnother ',' 0 sized
    | _ => names.flatMap fun name => name ++ [p.stop]

end Page

end NameTables.Script.Utility
