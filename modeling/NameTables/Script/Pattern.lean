import NameTables.Text.Basic

/-!
# Patterns

In a pattern `*` stands for any text, `?` for any character, and brackets for one of the characters
in them, unless these are quoted.  A pattern is matched against the whole of a text.

## Main definitions

* `Atom`, `atoms` — a pattern in parts.
* `matchesAll` — does a text match?
* `dropLead`, `dropTail` — cut a matching beginning or end off.
* `dropLeadOfRow`, `dropTailOfRow` — the same for words in a row.
-/

namespace NameTables.Script

/-- What stands between brackets. -/
inductive Member
  /-- The characters from one to another. -/
  | range (low high : Char)
  /-- The characters of a class with a name. -/
  | named (name : Text)
  deriving DecidableEq, Repr

/-- A part of a pattern. -/
inductive Atom
  /-- Any text. -/
  | any
  /-- Any character. -/
  | one
  /-- A character among the members, or one that is not. -/
  | among (negated : Bool) (members : List Member)
  /-- A character. -/
  | char (c : Char)
  deriving DecidableEq, Repr

/-- The class with a name, which holds ASCII characters only. -/
def classOf? (name : Text) : Option (Char → Bool) :=
  let graphic := fun c : Char => '!' ≤ c && c ≤ '~'
  if name = "alpha".toList then some Char.isAlpha
  else if name = "digit".toList then some Char.isDigit
  else if name = "alnum".toList then some Char.isAlphanum
  else if name = "upper".toList then some Char.isUpper
  else if name = "lower".toList then some Char.isLower
  else if name = "space".toList then some fun c => c = ' ' || ('\t' ≤ c && c ≤ '\r')
  else if name = "blank".toList then some fun c => c = ' ' || c = '\t'
  else if name = "punct".toList then some fun c => graphic c && !c.isAlphanum
  else if name = "graph".toList then some graphic
  else if name = "print".toList then some fun c => graphic c || c = ' '
  else if name = "cntrl".toList then some fun c => c < ' ' || c = '\x7f'
  else if name = "xdigit".toList then
    some fun c => c.isDigit || ('a' ≤ c && c ≤ 'f') || ('A' ≤ c && c ≤ 'F')
  else none

/-- The name of a class between colons, after an opening bracket, and what follows. -/
def className? (s : List (Char × Bool)) : Option (Text × List (Char × Bool)) :=
  match s with
  | (':', false) :: rest =>
    let name := (rest.takeWhile fun x => x.1.isAlpha).map Prod.fst
    match rest.drop name.length with
    | (':', false) :: (']', false) :: after => if (classOf? name).isSome then some (name, after)
      else none
    | _ => none
  | _ => none

/-- The members up to the closing bracket, and what follows it.  A closing bracket that comes first
is a member. -/
def membersOf : (fuel : Nat) → (first : Bool) → List (Char × Bool) →
    Option (List Member × List (Char × Bool))
  | 0, _, _ => none
  | _, _, [] => none
  | fuel + 1, first, (c, quoted) :: rest =>
    if c = ']' && !quoted && !first then some ([], rest)
    else
      match (if c = '[' && !quoted then className? rest else none), rest with
      | some (name, after), _ =>
        (membersOf fuel false after).map fun (ms, after) => (.named name :: ms, after)
      | none, ('-', false) :: (d, quotedEnd) :: after =>
        if d = ']' && !quotedEnd then
          (membersOf fuel false rest).map fun (ms, after) => (.range c c :: ms, after)
        else (membersOf fuel false after).map fun (ms, after) => (.range c d :: ms, after)
      | none, rest => (membersOf fuel false rest).map fun (ms, after) => (.range c c :: ms, after)

/-- The parts of a pattern, which is given with the quoting of each character. -/
def atomsOf : (fuel : Nat) → List (Char × Bool) → List Atom
  | 0, _ => []
  | _, [] => []
  | fuel + 1, (c, quoted) :: rest =>
    if quoted then .char c :: atomsOf fuel rest
    else
      match c with
      | '*' => .any :: atomsOf fuel rest
      | '?' => .one :: atomsOf fuel rest
      | '[' =>
        let (negated, inside) :=
          match rest with
          | ('!', false) :: rest => (true, rest)
          | rest => (false, rest)
        match membersOf (inside.length + 1) true inside with
        | some (members, after) => .among negated members :: atomsOf fuel after
        | none => .char '[' :: atomsOf fuel rest
      | c => .char c :: atomsOf fuel rest

/-- The parts of a pattern. -/
def atoms (s : List (Char × Bool)) : List Atom := atomsOf s.length s

/-- Is the character one of the member's? -/
def Member.holds (c : Char) : Member → Bool
  | .range low high => low ≤ c && c ≤ high
  | .named name => ((classOf? name).map (· c)).getD false

/-- Does a character match a part that stands for one character? -/
def Atom.accepts (c : Char) : Atom → Bool
  | .any => false
  | .one => true
  | .among negated members => negated != members.any (Member.holds c)
  | .char d => c = d

/-- Does a condition hold of the text or of one of its ends? -/
def anyEnd (p : Text → Bool) : Text → Bool
  | [] => p []
  | c :: s => p (c :: s) || anyEnd p s

/-- Does the whole text match? -/
def matchesAll : List Atom → Text → Bool
  | [], s => s.isEmpty
  | .any :: rest, s => anyEnd (matchesAll rest) s
  | a :: rest, s =>
    match s with
    | [] => false
    | c :: s => a.accepts c && matchesAll rest s

/-- The text without its shortest or longest beginning that matches. -/
def dropLead (pattern : List Atom) (longest : Bool) (s : Text) : Text :=
  let cuts := List.range (s.length + 1)
  let cuts := if longest then cuts.reverse else cuts
  match cuts.find? fun n => matchesAll pattern (s.take n) with
  | some n => s.drop n
  | none => s

/-- Where the shortest or longest end of a text begins that matches. -/
def tailAt? (pattern : List Atom) (longest : Bool) (s : Text) : Option Nat :=
  let cuts := List.range (s.length + 1)
  let cuts := if longest then cuts else cuts.reverse
  cuts.find? fun n => matchesAll pattern (s.drop n)

/-- The text without its shortest or longest end that matches. -/
def dropTail (pattern : List Atom) (longest : Bool) (s : Text) : Text :=
  match tailAt? pattern longest s with
  | some n => s.take n
  | none => s

/-- Words in a row without their beginning: the first of them loses what matches, and if the longest
beginning is all of it, nothing is left of the others. -/
def dropLeadOfRow (pattern : List Atom) (longest : Bool) : List Text → List Text
  | [] => []
  | word :: rest =>
    if longest && matchesAll pattern word then [[]]
    else dropLead pattern longest word :: rest

/-- Words in a row up to the last of them that has an end that matches, which is cut off; or, when it
is to be the longest one, up to the first of them if it has such an end. -/
def dropTailOfRow (pattern : List Atom) (longest : Bool) : List Text → List Text
  | [] => []
  | word :: rest =>
    if !longest && rest.any fun later => (tailAt? pattern longest later).isSome then
      word :: dropTailOfRow pattern longest rest
    else
      match tailAt? pattern longest word with
      | some n => [word.take n]
      | none => word :: rest

end NameTables.Script
