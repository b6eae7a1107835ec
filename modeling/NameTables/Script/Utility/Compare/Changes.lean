import NameTables.Script.Utility.Basic

/-!
# What has changed between two sequences

The fewest elements to take out of one sequence and to put into it so that it becomes another one.
Both sequences are split where a path of such steps from the beginning meets one from the end, and
what has changed is moved as far down as equal elements allow.

## Main definitions

* `Stretch` — a part of both sequences.
* `middle` — where a stretch is split.
* `Marks`, `markChanges` — which elements have changed.
* `shifted` — the marks, moved down.
* `Hunk`, `hunksOf` — the changes, one after another.
-/

namespace NameTables.Script.Utility

/-- A part of two sequences: from a place in each to another one. -/
structure Stretch where
  /-- Where the part of the first sequence begins. -/
  x : Nat
  /-- Where it ends. -/
  xEnd : Nat
  /-- Where the part of the second sequence begins. -/
  y : Nat
  /-- Where it ends. -/
  yEnd : Nat

/-- Which elements of two sequences have changed. -/
structure Marks where
  /-- Those that are taken out of the first one. -/
  first : Array Bool
  /-- Those that the second one has more. -/
  second : Array Bool

/-- The element at a place; where there is none, one that is equal to no other one. -/
def elementAt (a : Array Nat) (i : Int) (other : Nat) : Nat :=
  if i < 0 then other else (a[i.toNat]?).getD other

/-- Where two sequences agree from places on, upwards, for so many elements at most. -/
def agreeUp (a b : Array Nat) (xEnd yEnd : Int) : (fuel : Nat) → Int → Int → Int
  | 0, x, _ => x
  | fuel + 1, x, y =>
    if x < xEnd && y < yEnd && elementAt a x 0 = elementAt b y 1 then
      agreeUp a b xEnd yEnd fuel (x + 1) (y + 1)
    else x

/-- Where two sequences agree from places on, downwards, for so many elements at most. -/
def agreeDown (a b : Array Nat) (xFirst yFirst : Int) : (fuel : Nat) → Int → Int → Int
  | 0, x, _ => x
  | fuel + 1, x, y =>
    if xFirst < x && yFirst < y && elementAt a (x - 1) 0 = elementAt b (y - 1) 1 then
      agreeDown a b xFirst yFirst fuel (x - 1) (y - 1)
    else x

/-! ### The middle -/

/-- How far paths on the diagonals have come, from one of the ends. -/
structure Front where
  /-- The least diagonal. -/
  low : Int
  /-- The greatest diagonal. -/
  high : Int
  /-- How far the paths have come, by diagonal. -/
  reached : Array Int

namespace Front

/-- How far the path on a diagonal has come; diagonals are counted from `-base` on. -/
def at_ (f : Front) (base : Int) (d : Int) : Int := (f.reached[(d + base).toNat]?).getD 0

/-- The front with a diagonal on which a path has come so far. -/
def set (f : Front) (base : Int) (d x : Int) : Front :=
  { f with reached := f.reached.setIfInBounds (d + base).toNat x }

/-- The front one step wider, if the bounds allow that; the new diagonals begin with `start`. -/
def widen (f : Front) (base least most start : Int) : Front :=
  let f :=
    if least < f.low then { f with low := f.low - 1 }.set base (f.low - 2) start
    else { f with low := f.low + 1 }
  if f.high < most then { f with high := f.high + 1 }.set base (f.high + 2) start
  else { f with high := f.high - 1 }

/-- The diagonals of the front, every second one, from the greatest on. -/
def diagonals (f : Front) : List Int :=
  if f.high < f.low then []
  else (List.range (((f.high - f.low) / 2).toNat + 1)).map fun (i : Nat) => f.high - 2 * (i : Int)

end Front

/-- Where a stretch is split: a path from its beginning, with the fewest changes, meets one from its
end there. -/
def middle (a b : Array Nat) (s : Stretch) : Nat × Nat :=
  let (x₀, x₁, y₀, y₁) := ((s.x : Int), (s.xEnd : Int), (s.y : Int), (s.yEnd : Int))
  let (least, most) := (x₀ - y₁, x₁ - y₀)
  let base := 2 - least
  let room := (most + base + 3).toNat
  let size := a.size + b.size
  let start := fun (d x : Int) => Front.set ⟨d, d, Array.replicate room 0⟩ base d x
  let isOdd := (x₀ - y₀ - (x₁ - y₁)) % 2 ≠ 0
  go (s.xEnd + s.yEnd + 2) isOdd base least most size (start (x₀ - y₀) x₀) (start (x₁ - y₁) x₁)
where
  /-- One more step from both ends. -/
  go (fuel : Nat) (isOdd : Bool) (base least most : Int) (size : Nat) (f g : Front) : Nat × Nat :=
    match fuel with
    | 0 => (s.x, s.y)
    | fuel + 1 =>
      let f := f.widen base least most (-1)
      let (met, f) := (f.diagonals).foldl (fun (found : Option (Nat × Nat) × Front) d =>
        match found with
        | (some p, f) => (some p, f)
        | (none, f) =>
          let (low, high) := (f.at_ base (d - 1), f.at_ base (d + 1))
          let x := if low < high then high else low + 1
          let x := agreeUp a b s.xEnd s.yEnd size x (x - d)
          let f := f.set base d x
          if isOdd && g.low ≤ d && d ≤ g.high && g.at_ base d ≤ x then
            (some (x.toNat, (x - d).toNat), f)
          else (none, f)) (none, f)
      match met with
      | some p => p
      | none =>
        let g := g.widen base least most (size + 1)
        let (met, g) := (g.diagonals).foldl (fun (found : Option (Nat × Nat) × Front) d =>
          match found with
          | (some p, g) => (some p, g)
          | (none, g) =>
            let (low, high) := (g.at_ base (d - 1), g.at_ base (d + 1))
            let x := if low < high then low else high - 1
            let x := agreeDown a b s.x s.y size x (x - d)
            let g := g.set base d x
            if !isOdd && f.low ≤ d && d ≤ f.high && x ≤ f.at_ base d then
              (some (x.toNat, (x - d).toNat), g)
            else (none, g)) (none, g)
        match met with
        | some p => p
        | none => go fuel isOdd base least most size f g

/-! ### Changes -/

/-- Mark what has changed in a stretch. -/
def markChanges (a b : Array Nat) : (fuel : Nat) → Stretch → Marks → Marks
  | 0, _, m => m
  | fuel + 1, s, m =>
    let size := a.size + b.size
    let up := (agreeUp a b s.xEnd s.yEnd size s.x s.y).toNat - s.x
    let s := { s with x := s.x + up, y := s.y + up }
    let down := s.xEnd - (agreeDown a b s.x s.y size s.xEnd s.yEnd).toNat
    let s := { s with xEnd := s.xEnd - down, yEnd := s.yEnd - down }
    let marked := fun (marks : Array Bool) (first last : Nat) =>
      (List.range (last - first)).foldl (fun marks i => marks.setIfInBounds (first + i) true) marks
    if s.x = s.xEnd then { m with second := marked m.second s.y s.yEnd }
    else if s.y = s.yEnd then { m with first := marked m.first s.x s.xEnd }
    else
      let (x, y) := middle a b s
      let m := markChanges a b fuel { s with xEnd := x, yEnd := y } m
      markChanges a b fuel { s with x := x, y := y } m

/-- Mark what has changed.  Elements that one of the sequences does not have are not looked at any
further. -/
def marksOf (a b : Array Nat) : Marks :=
  let kept := fun (own other : Array Nat) =>
    (List.range own.size).filter fun i => other.contains ((own[i]?).getD 0)
  let (keptFirst, keptSecond) := (kept a b, kept b a)
  let pick := fun (own : Array Nat) (places : List Nat) =>
    (places.map fun i => (own[i]?).getD 0).toArray
  let (c, d) := (pick a keptFirst, pick b keptSecond)
  let none_ := fun (x : Array Nat) => Array.replicate x.size false
  let m := markChanges c d (c.size + d.size + 1) ⟨0, c.size, 0, d.size⟩ ⟨none_ c, none_ d⟩
  let spread := fun (own : Array Nat) (places : List Nat) (marks : Array Bool) =>
    (places.zipIdx).foldl (fun (all : Array Bool) (place, i) =>
      all.setIfInBounds place ((marks[i]?).getD false)) (Array.replicate own.size true)
  ⟨spread a keptFirst m.first, spread b keptSecond m.second⟩

/-! ### Changes that are moved -/

/-- Marks of one sequence, which are moved, with places in both sequences: where a run of changes
begins and ends, and the place in the other one. -/
structure Shift where
  /-- The marks. -/
  marks : Array Bool
  /-- Where the run begins. -/
  start : Nat
  /-- Where it ends. -/
  i : Nat
  /-- The place in the other sequence. -/
  j : Nat
  /-- The last end at which the other sequence has changed, too. -/
  matched : Option Nat

namespace Shift

/-- Is an element marked? -/
def marked (marks : Array Bool) (i : Nat) : Bool := (marks[i]?).getD false

/-- The place behind the marks from a place on. -/
def pastMarks (marks : Array Bool) (i : Nat) : Nat :=
  i + ((List.range (marks.size - i)).takeWhile fun k => marked marks (i + k)).length

/-- The place where the marks in front of a place begin. -/
def beforeMarks (marks : Array Bool) (i : Nat) : Nat :=
  i - ((List.range i).takeWhile fun k => marked marks (i - 1 - k)).length

/-- Move the run up, as long as the element before it equals its last one. -/
def moveUp (own : Array Nat) (other : Array Bool) : (fuel : Nat) → Shift → Shift
  | 0, s => s
  | fuel + 1, s =>
    if 0 < s.start && own[s.start - 1]? = own[s.i - 1]? then
      let marks := (s.marks.setIfInBounds (s.start - 1) true).setIfInBounds (s.i - 1) false
      moveUp own other fuel { s with
        marks
        start := beforeMarks marks (s.start - 1)
        i := s.i - 1
        j := beforeMarks other s.j - 1 }
    else s

/-- Move the run down, as long as the element behind it equals its first one. -/
def moveDown (own : Array Nat) (other : Array Bool) : (fuel : Nat) → Shift → Shift
  | 0, s => s
  | fuel + 1, s =>
    if s.i < own.size && own[s.start]? = own[s.i]? then
      let marks := (s.marks.setIfInBounds s.start false).setIfInBounds s.i true
      let i := pastMarks marks (s.i + 1)
      let j := pastMarks other (s.j + 1)
      moveDown own other fuel { s with
        marks
        start := s.start + 1
        i
        j
        matched := if j = s.j + 1 then s.matched else some i }
    else s

/-- Move the run up and down until it does not grow any more. -/
def settle (own : Array Nat) (other : Array Bool) : (fuel : Nat) → Shift → Shift
  | 0, s => s
  | fuel + 1, s =>
    let before := s.i - s.start
    let s := moveUp own other (own.size + 1) s
    let s := { s with matched := if 0 < s.j && marked other (s.j - 1) then some s.i else none }
    let s := moveDown own other (own.size + 1) s
    if s.i - s.start = before then s else settle own other fuel s

/-- Move the run back to where the other sequence has changed, too. -/
def moveBack (other : Array Bool) : (fuel : Nat) → Shift → Shift
  | 0, s => s
  | fuel + 1, s =>
    match s.matched with
    | some goal =>
      if goal < s.i then
        moveBack other fuel { s with
          marks := (s.marks.setIfInBounds (s.start - 1) true).setIfInBounds (s.i - 1) false
          start := s.start - 1
          i := s.i - 1
          j := beforeMarks other s.j - 1 }
      else s
    | none => s

/-- Move all runs from a place on. -/
def all (own : Array Nat) (other : Array Bool) : (fuel : Nat) → (marks : Array Bool) → (i j : Nat) →
    Array Bool
  | 0, marks, _, _ => marks
  | fuel + 1, marks, i, j =>
    if own.size ≤ i then marks
    else if !marked marks i then all own other fuel marks (i + 1) (pastMarks other j + 1)
    else
      let run : Shift := ⟨marks, i, pastMarks marks i, pastMarks other j, none⟩
      let s := moveBack other (own.size + 1) (settle own other (own.size + 1) run)
      all own other fuel s.marks s.i s.j

end Shift

/-- The marks, moved as far down as equal elements allow, first those of the one sequence and then
those of the other one. -/
def shifted (a b : Array Nat) (m : Marks) : Marks :=
  let first := Shift.all a m.second (2 * a.size + 2) m.first 0 0
  let second := Shift.all b first (2 * b.size + 2) m.second 0 0
  ⟨first, second⟩

/-! ### Hunks -/

/-- Elements that are taken out, and others that are put in their place. -/
structure Hunk where
  /-- Where the elements begin that are taken out. -/
  x : Nat
  /-- How many they are. -/
  out : Nat
  /-- Where the elements begin that are put in. -/
  y : Nat
  /-- How many they are. -/
  in_ : Nat
  deriving DecidableEq, Repr

/-- How many elements a hunk changes. -/
def Hunk.count (h : Hunk) : Nat := h.out + h.in_

/-- The changes that are marked from places on. -/
def hunksFrom (m : Marks) : (fuel : Nat) → (x y : Nat) → List Hunk
  | 0, _, _ => []
  | fuel + 1, x, y =>
    let (xNext, yNext) := (Shift.pastMarks m.first x, Shift.pastMarks m.second y)
    if m.first.size ≤ x && m.second.size ≤ y then []
    else if xNext = x && yNext = y then hunksFrom m fuel (x + 1) (y + 1)
    else ⟨x, xNext - x, y, yNext - y⟩ :: hunksFrom m fuel xNext yNext

/-- What has changed between two sequences that do not begin or end alike. -/
def changesWithin (a b : Array Nat) : List Hunk :=
  let m := shifted a b (marksOf a b)
  hunksFrom m (a.size + b.size + 1) 0 0

/-- What has changed between two sequences.  Of what they have in common at both ends, only so many
elements are looked at. -/
def hunksOf (horizon : Nat) (a b : List Nat) : List Hunk :=
  let common := fun (a b : List Nat) => ((a.zip b).takeWhile fun (x, y) => x = y).length
  let lead := common a b
  let tail := common (a.drop lead).reverse (b.drop lead).reverse - horizon
  let lead := lead - horizon
  let (a, b) := (a.drop lead, b.drop lead)
  let inner := fun (l : List Nat) => (l.take (l.length - tail)).toArray
  (changesWithin (inner a) (inner b)).map fun h => { h with x := h.x + lead, y := h.y + lead }

end NameTables.Script.Utility
