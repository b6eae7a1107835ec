import NameTables.Script.Utility.Basic

/-!
# Names with versions in them

Names are ordered as people count: part by part, in turn what is no digit, and numbers by how much they
are.

## Main definitions

* `compareParts` — the order of texts by their parts.
* `compareVersions` — the order of names, the endings of which only count last.
-/

namespace NameTables.Script

namespace Utility

/-- The place of a character that is no digit, or of the end, among those in a version. -/
def versionPlace (s : Text) : Int :=
  match s with
  | [] => -1
  | c :: _ =>
    if c.isDigit then 0
    else if c.isAlpha then c.toNat
    else if c = '~' then -2
    else c.toNat + 256

/-- Compare up to a digit in both, and tell what is left. -/
def compareWordParts : (fuel : Nat) → Text → Text → Ordering × Text × Text
  | 0, s, t => (.eq, s, t)
  | fuel + 1, s, t =>
    let isPart := fun s : Text => s.head?.any (!·.isDigit)
    if isPart s || isPart t then
      match compare (versionPlace s) (versionPlace t) with
      | .eq => compareWordParts fuel s.tail t.tail
      | found => (found, s, t)
    else (.eq, s, t)

/-- Compare texts part by part, in turn what is no digit, and numbers. -/
def compareParts : (fuel : Nat) → Text → Text → Ordering
  | 0, _, _ => .eq
  | fuel + 1, s, t =>
    if s.isEmpty && t.isEmpty then .eq
    else
      match compareWordParts (s.length + t.length) s t with
      | (.eq, s, t) =>
        let number := fun s : Text =>
          let digits := (s.dropWhile (· = '0')).takeWhile Char.isDigit
          (digits.length, digits)
        let (m, n) := (number s, number t)
        ((compare m.1 n.1).then (compareTexts m.2 n.2)).then
          (compareParts fuel (s.dropWhile Char.isDigit) (t.dropWhile Char.isDigit))
      | (found, _, _) => found

/-- How long a name is without its endings. -/
def stemLength (s : Text) : Nat :=
  go s.length 0 s
where
  /-- The length of a stem up to a place, and of what follows. -/
  go : (fuel : Nat) → (position : Nat) → Text → Nat
    | fuel + 1, position, _ :: rest =>
      let (length, after) := endings (rest.length + 1) 0 rest
      if after.isEmpty then position + 1 else go fuel (position + 1 + length) after
    | _, position, _ => position
  /-- The length of the endings that a text begins with, and what follows. -/
  endings : (fuel : Nat) → (length : Nat) → Text → Nat × Text
    | fuel + 1, length, '.' :: c :: rest =>
      if c.isAlpha || c = '~' then
        let more := rest.takeWhile fun c => c.isAlphanum || c = '~'
        endings fuel (length + 2 + more.length) (rest.drop more.length)
      else (length, '.' :: c :: rest)
    | _, length, s => (length, s)

/-- The order of names with versions in them.  Hidden ones come first, and endings only count where
there is no other difference. -/
def compareVersions (s t : Text) : Ordering :=
  let hidden := fun s : Text =>
    if s.isEmpty then 0
    else if s = ['.'] then 1
    else if s = ['.', '.'] then 2
    else if s.head? = some '.' then 3
    else 4
  let parts := fun s t : Text => compareParts (s.length + t.length + 1) s t
  (compare (hidden s) (hidden t)).then
    (((parts (s.take (stemLength s)) (t.take (stemLength t)))).then (parts s t))

end NameTables.Script.Utility
