/-!
# Texts and bytes

A text is a list of characters and a byte string a list of octets, so that every rule about
them is a list induction.  This module has the two ways a text is cut: at each character of a
class (`Text.pieces`) and into lines (`Text.lines`).

## Main definitions

* `total` — the sum of some numbers.
* `Text`, `Bytes` — characters and octets.
* `compareTexts` — the order of texts.
* `splitAt` — a list cut at each element of a class, the separators dropped.
* `Text.lines` — the lines of a text, without their line ends.
* `Text.dropLead?` — what follows a required beginning.
-/

namespace NameTables

/-- The sum of some numbers. -/
def total (l : List Nat) : Nat := l.foldr (· + ·) 0

@[simp] theorem total_nil : total [] = 0 := rfl

@[simp] theorem total_cons (n : Nat) (l : List Nat) : total (n :: l) = n + total l := rfl

/-- A text: its characters in order. -/
abbrev Text := List Char

/-- Texts are equal when their characters are. -/
instance : LawfulBEq Text := inferInstance

/-- The order of texts by their characters. -/
def compareTexts : Text → Text → Ordering
  | [], [] => .eq
  | [], _ :: _ => .lt
  | _ :: _, [] => .gt
  | a :: s, b :: t => if a = b then compareTexts s t else if a < b then .lt else .gt

/-- A byte string: its octets in order. -/
abbrev Bytes := List UInt8

/-- Put `a` in front of the first piece. -/
def consFirst {α : Type} (a : α) : List (List α) → List (List α)
  | [] => [[a]]
  | p :: ps => (a :: p) :: ps

@[simp] theorem consFirst_nil {α : Type} (a : α) : consFirst a [] = [[a]] := rfl

@[simp] theorem consFirst_cons {α : Type} (a : α) (p : List α) (ps : List (List α)) :
    consFirst a (p :: ps) = (a :: p) :: ps := rfl

/-- Cut a list at every element of the class `sep`.  There is always one piece more than there
are separators, so neighbouring separators have an empty piece between them. -/
def splitAt {α : Type} (sep : α → Bool) (l : List α) : List (List α) :=
  l.foldr (fun a ps => if sep a then [] :: ps else consFirst a ps) [[]]

@[simp] theorem splitAt_nil {α : Type} (sep : α → Bool) : splitAt sep [] = [[]] := rfl

theorem splitAt_cons {α : Type} (sep : α → Bool) (a : α) (l : List α) :
    splitAt sep (a :: l) = if sep a then [] :: splitAt sep l else consFirst a (splitAt sep l) :=
  rfl

/-- The pieces of `l` with an unended last piece dropped when it is empty: each piece is what
stood before one separator, or a non-empty rest. -/
def splitEnded {α : Type} (sep : α → Bool) (l : List α) : List (List α) :=
  match (splitAt sep l).reverse with
  | [] :: ps => ps.reverse
  | ps => ps.reverse

namespace Text

/-- Cut a text at every character of the class `sep`. -/
abbrev pieces (sep : Char → Bool) (s : Text) : List Text := splitAt sep s

/-- What follows `lead` in a text that begins with it. -/
def dropLead? : (lead s : Text) → Option Text
  | [], s => some s
  | _ :: _, [] => none
  | a :: lead, c :: s => if a = c then dropLead? lead s else none

@[simp] theorem dropLead?_nil (s : Text) : dropLead? [] s = some s := by
  cases s <;> rfl

@[simp] theorem dropLead?_cons_nil (a : Char) (lead : Text) : dropLead? (a :: lead) [] = none :=
  rfl

theorem dropLead?_cons_cons (a c : Char) (lead s : Text) :
    dropLead? (a :: lead) (c :: s) = if a = c then dropLead? lead s else none := rfl

/-- `dropLead?` undoes putting a beginning in front. -/
theorem dropLead?_eq_some_iff {lead s r : Text} : dropLead? lead s = some r ↔ s = lead ++ r := by
  induction lead generalizing s with
  | nil => simp
  | cons a lead ih =>
    cases s with
    | nil => simp
    | cons c s =>
      rw [dropLead?_cons_cons]
      by_cases h : a = c
      · simp [h, ih]
      · have h' : ¬ c = a := fun e => h e.symm
        simp [h, h']

/-- Does the text begin with `lead`? -/
def beginsWith (lead s : Text) : Bool := (dropLead? lead s).isSome

/-- Does `part` stand somewhere in the text? -/
def contains (part : Text) : Text → Bool
  | [] => part.isEmpty
  | c :: s => beginsWith part (c :: s) || contains part s

/-- Drop a carriage return that ends the line. -/
def dropReturn (line : Text) : Text :=
  match line.reverse with
  | '\r' :: r => r.reverse
  | _ => line

/-- The lines of a text.  A line ends at a line feed, which may have a carriage return before it;
what follows the last line feed is a line too unless it is empty. -/
def lines (s : Text) : List Text :=
  match (pieces (· == '\n') s).reverse with
  | [] => []
  | last :: ended =>
    (ended.map dropReturn).reverse ++ (if last.isEmpty then [] else [last])

/-- The texts one after another with `sep` between neighbours. -/
def join (sep : Text) : List Text → Text
  | [] => []
  | [s] => s
  | s :: rest => s ++ (sep ++ join sep rest)

@[simp] theorem join_nil (sep : Text) : join sep [] = [] := rfl

@[simp] theorem join_singleton (sep s : Text) : join sep [s] = s := rfl

@[simp] theorem join_cons_cons (sep s t : Text) (rest : List Text) :
    join sep (s :: t :: rest) = s ++ (sep ++ join sep (t :: rest)) := rfl

/-- A number in decimal digits, without leading zeros. -/
def ofNat (n : Nat) : Text := Nat.toDigits 10 n

/-- A whole number in decimal digits, with a minus sign when it is negative. -/
def ofInt : Int → Text
  | .ofNat n => ofNat n
  | .negSucc n => '-' :: ofNat (n + 1)

/-- Spaces after the text up to `width` characters. -/
def padRight (width : Nat) (s : Text) : Text := s ++ List.replicate (width - s.length) ' '

/-- Spaces before the text up to `width` characters. -/
def padLeft (width : Nat) (s : Text) : Text := List.replicate (width - s.length) ' ' ++ s

/-- The number of octets the text takes in UTF-8. -/
def byteLength (s : Text) : Nat := s.foldl (fun n c => n + c.utf8Size) 0

end Text

end NameTables
