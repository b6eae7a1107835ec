import NameTables.Script.Format
import NameTables.Script.Utility.Basic

/-!
# Translating octets

A program that replaces octets by others, deletes them, or makes one of several equal ones.  Sets of
octets are written with ranges, classes and repetitions.

## Main definitions

* `Octets.Part` — a part of a set as it is written.
* `Octets.read` — the parts that a word tells.
* `Octets.Mapping` — what becomes of each octet.
* `translate` — the program.
-/

namespace NameTables.Script.Utility

namespace Octets

/-- A part of a set. -/
inductive Part
  /-- An octet. -/
  | one (c : Char)
  /-- All octets from one to another. -/
  | range (first last : Char)
  /-- A class, by its name. -/
  | named (name : Text)
  /-- The octets that count as the same as one. -/
  | same (c : Char)
  /-- An octet so many times; as often as needed if nothing is told. -/
  | repeated (c : Char) (count : Option Nat)

/-- All octets. -/
def all : List Char := (List.range 256).map Char.ofNat

/-- The class with a name. -/
def classOf? (name : Text) : Option (Char → Bool) :=
  match String.ofList name with
  | "alpha" => some Char.isAlpha
  | "digit" => some Char.isDigit
  | "alnum" => some Char.isAlphanum
  | "upper" => some Char.isUpper
  | "lower" => some Char.isLower
  | "space" => some isBlankChar
  | "blank" => some fun c => c = ' ' || c = '\t'
  | "punct" => some fun c => '!' ≤ c && c ≤ '~' && !c.isAlphanum
  | "graph" => some fun c => '!' ≤ c && c ≤ '~'
  | "print" => some fun c => ' ' ≤ c && c ≤ '~'
  | "cntrl" => some fun c => c < ' ' || c = '\x7f'
  | "xdigit" => some fun c => c.isDigit || ('a' ≤ c && c ≤ 'f') || ('A' ≤ c && c ≤ 'F')
  | _ => none

/-- The octets of a part, where a repetition without a number is so long. -/
def Part.octets (fill : Nat) : Part → List Char
  | .one c => [c]
  | .range first last => all.filter fun c => first ≤ c && c ≤ last
  | .named name => all.filter ((classOf? name).getD fun _ => false)
  | .same c => [c]
  | .repeated c count => List.replicate (count.getD fill) c

/-- Is the part a class? -/
def Part.isClass : Part → Bool
  | .named _ => true
  | _ => false

/-- Is the part a class of letters in one case? -/
def Part.isCase : Part → Bool
  | .named name => name = "upper".toList || name = "lower".toList
  | _ => false

/-- Is the part repeated as often as needed? -/
def Part.isOpen : Part → Bool
  | .repeated _ none => true
  | _ => false

/-- Does the part stand for octets that count as the same? -/
def Part.isSame : Part → Bool
  | .same _ => true
  | _ => false

/-! ### Reading sets -/

/-- The octets of a word, each with whether a backslash was in front of it, and the warnings. -/
def unescaped : (fuel : Nat) → Text → List (Char × Bool) × List Text
  | 0, _ => ([], [])
  | _, [] => ([], [])
  | fuel + 1, c :: rest =>
    let go := fun (c : Char) (isEscaped : Bool) (said : List Text) (rest : Text) =>
      let (found, more) := unescaped fuel rest
      ((c, isEscaped) :: found, said ++ more)
    if c ≠ '\\' then go c false [] rest
    else
      match rest with
      | [] =>
        go '\\' false
          ["warning: an unescaped backslash at end of string is not portable".toList] []
      | d :: after =>
        if isOctal d then
          let digits := (rest.take 3).takeWhile isOctal
          match digitsValue? 8 digits with
          | some n =>
            if n < 256 then go (Char.ofNat n) true [] (rest.drop digits.length)
            else
              let two := digits.take 2
              go (octalChar two) true
                ["warning: the ambiguous octal escape \\".toList ++ digits
                  ++ " is being\n\tinterpreted as the 2-byte sequence \\0".toList ++ two ++ ", ".toList
                  ++ digits.drop 2] (rest.drop 2)
          | none => go d true [] after
        else
          go (if d = 'e' then d else (escaped? d).getD d) true [] after

/-- What is told by digits in a repetition: nothing, a number, or something else. -/
def countOf (digits : Text) : Option (Option Nat) :=
  match digits with
  | [] => some none
  | digits =>
    (digitsValue? (if digits.head? = some '0' then 8 else 10) digits).map fun n =>
      if n = 0 then none else some n

/-- The position of a delimiter with a closing bracket behind it. -/
def closing? (delimiter : Char) (s : List (Char × Bool)) : Option Nat :=
  (List.range (s.length - 1)).find? fun i =>
    s[i]? = some (delimiter, false) && s[i + 1]? = some (']', false)

/-- The repetition that stands behind an opening bracket, and what follows it; it is wrong if it
has no number. -/
def repetition? (s : List (Char × Bool)) :
    Option (Except Text (Part × List (Char × Bool))) :=
  match s with
  | (c, _) :: ('*', false) :: rest =>
    let inside := rest.takeWhile fun x => x.1 ≠ ']' && !x.2
    match rest.drop inside.length with
    | (']', _) :: after =>
      let digits := inside.map Prod.fst
      match countOf digits with
      | some count => some (.ok (.repeated c count, after))
      | none =>
        some (.error ("invalid repeat count ".toList ++ inCurlyQuotes digits
          ++ " in [c*n] construct".toList))
    | _ => none
  | _ => none

/-- Does a character stand here with a star, digits and a closing bracket behind it? -/
def startsRepetition (s : List (Char × Bool)) : Bool :=
  match s with
  | _ :: ('*', false) :: rest =>
    match rest.dropWhile fun x => x.1.isDigit with
    | (']', isEscaped) :: _ => !isEscaped
    | _ => false
  | _ => false

/-- An octet as it is shown in a message. -/
def shown (c : Char) : Text :=
  if ' ' ≤ c && c ≤ '~' then [c]
  else
    let digits := Nat.toDigits 8 c.toNat
    '\\' :: List.replicate (3 - digits.length) '0' ++ digits

/-- The parts that octets tell. -/
def parts : (fuel : Nat) → List (Char × Bool) → Except Text (List Part)
  | 0, _ => .ok []
  | _, [] => .ok []
  | fuel + 1, (c, isEscaped) :: rest => do
    let plain := fun (_ : Unit) =>
      match rest with
      | ('-', false) :: (d, _) :: after =>
        if d < c then
          .error ("range-endpoints of '".toList ++ shown c ++ '-' :: shown d
            ++ "' are in reverse collating sequence order".toList)
        else return .range c d :: (← parts fuel after)
      | rest => return .one c :: (← parts fuel rest)
    if c ≠ '[' || isEscaped then plain ()
    else
      let bracketed :=
        match rest with
        | (d, false) :: inside =>
          if d = ':' || d = '=' then
            (closing? d inside).map fun i => (d, inside.take i, inside.drop (i + 2))
          else none
        | _ => none
      let repeated := fun (_ : Unit) => do
        match repetition? rest with
        | some (.ok (part, after)) => return part :: (← parts fuel after)
        | some (.error said) => throw said
        | none => plain ()
      match bracketed with
      | none => repeated ()
      | some (d, inside, after) =>
        let name := inside.map Prod.fst
        if name.isEmpty then
          if d = ':' then throw "missing character class name '[::]'".toList
          else throw "missing equivalence class character '[==]'".toList
        else
          if d = ':' then
            if (classOf? name).isSome then return .named name :: (← parts fuel after)
            else if startsRepetition rest then repeated ()
            else throw ("invalid character class ".toList ++ inCurlyQuotes name)
          else
            match name with
            | [c] => return .same c :: (← parts fuel after)
            | name =>
              if startsRepetition rest then repeated ()
              else throw (name ++ ": equivalence class operand must be a single character".toList)

/-- The parts that a word tells, and the warnings. -/
def read (word : Text) : Except Text (List Part) × List Text :=
  let (octets, said) := unescaped (word.length + 1) word
  (parts (octets.length + 1) octets, said)

/-! ### Mappings -/

/-- How octets are treated. -/
structure Aim where
  /-- Does the first set stand for all other octets? -/
  complement : Bool
  /-- Are the octets of the first set deleted? -/
  deletes : Bool
  /-- Is only one left of several equal octets? -/
  squeezes : Bool
  /-- Is the first set cut to the length of the second one? -/
  truncates : Bool

/-- What becomes of each octet. -/
structure Mapping where
  /-- The octets that are deleted. -/
  deleted : List Char
  /-- What others become. -/
  becomes : List (Char × Char)
  /-- The octets of which only one is left. -/
  squeezed : List Char

/-- Where the parts that satisfy a condition begin. -/
def offsets (fill : Nat) (p : Part → Bool) (ps : List Part) : List Nat :=
  let (found, _) := ps.foldl (fun (found, n) part =>
    (if p part then n :: found else found, n + (part.octets fill).length)) (([] : List Nat), 0)
  found

/-- The octets that the first set stands for. -/
def Aim.first (a : Aim) (ps : List Part) : List Char :=
  let found := ps.flatMap (Part.octets 0)
  if a.complement then all.filter fun c => !found.contains c else found

/-- What the octets of the first set become by the second set. -/
def Aim.pairs (a : Aim) (first second : List Part) : Except Text (List (Char × Char)) := do
  let from_ := a.first first
  let fixed := ((second.filter (!·.isOpen)).flatMap (Part.octets 0)).length
  let fill := from_.length - fixed
  let targets := second.flatMap (Part.octets fill)
  if 1 < (second.filter Part.isOpen).length then
    throw "only one [c*] repeat construct may appear in string2".toList
  if second.any Part.isSame then
    throw "[=c=] expressions may not appear in string2 when translating".toList
  if second.any fun p => p.isClass && !p.isCase then
    throw ("when translating, the only character classes that may appear in\n"
      ++ "string2 are 'upper' and 'lower'").toList
  let cases := offsets fill Part.isCase first
  if !a.complement && (offsets fill Part.isCase second).any (!cases.contains ·) then
    throw "misaligned [:upper:] and/or [:lower:] construct".toList
  let padded ←
    if from_.length ≤ targets.length || a.truncates then pure targets
    else
      match targets.getLast?, second.getLast? with
      | none, _ => throw "when not truncating set1, string2 must be non-empty".toList
      | some c, some last =>
        if last.isClass then
          throw ("when translating with string1 longer than string2,\n"
            ++ "the latter string must not end with a character class").toList
        else pure (targets ++ List.replicate (from_.length - targets.length) c)
      | some _, none => pure targets
  let isOne := padded.length = from_.length && padded.all fun c => some c = padded.head?
  if a.complement && first.any Part.isClass && !isOne then
    throw ("when translating with complemented character classes,\n"
      ++ "string2 must map all characters in the domain to one").toList
  return from_.zip padded

/-- What becomes of each octet by one set, or by two. -/
def Aim.mapping (a : Aim) (first : List Part) (second : Option (List Part)) :
    Except Text Mapping := do
  if first.any Part.isOpen then
    throw "the [c*] repeat construct may not appear in string1".toList
  match second with
  | none =>
    let found := a.first first
    return ⟨if a.deletes then found else [], [], if a.deletes then [] else found⟩
  | some second =>
    let squeezed := fun (_ : Unit) =>
      if a.squeezes then second.flatMap (Part.octets 1) else []
    if a.deletes then
      if second.any Part.isOpen then
        throw "the [c*] construct may appear in string2 only when translating".toList
      return ⟨a.first first, [], squeezed ()⟩
    else
      let pairs ← a.pairs first second
      return ⟨[], pairs, if a.squeezes then pairs.map Prod.snd ++ squeezed () else []⟩

/-- A mapping as tables. -/
structure Tables where
  /-- What each octet becomes; nothing if it is deleted. -/
  becomes : Array (Option Char)
  /-- Is only one octet left of several? -/
  squeezed : Array Bool

/-- The tables of a mapping; of several pairs for an octet the last one counts. -/
def Mapping.tables (m : Mapping) : Tables :=
  let start : Array (Option Char) := (all.map some).toArray
  let becomes := m.becomes.foldl (fun t (c, d) => t.setIfInBounds c.toNat (some d)) start
  let becomes := m.deleted.foldl (fun t c => t.setIfInBounds c.toNat none) becomes
  let squeezed := m.squeezed.foldl (fun t c => t.setIfInBounds c.toNat true)
    (Array.replicate 256 false)
  ⟨becomes, squeezed⟩

/-- A text after the mapping, and the octet that came last. -/
def Tables.apply (t : Tables) (last : Option Char) (s : Text) : Text × Option Char :=
  let (found, last) := s.foldl (fun (found, last) c =>
    match (t.becomes[c.toNat]?).getD (some c) with
    | none => (found, last)
    | some d =>
      if some d = last && (t.squeezed[d.toNat]?).getD false then (found, last)
      else (d :: found, some d)) (([] : Text), last)
  (found.reverse, last)

end Octets

/-- Replace, delete or squeeze the octets of the input. -/
def translate : Utility := fun args => do
  let usage : Usage := ⟨"cCdst", "", [("complement", 'c'), ("delete", 'd'),
    ("squeeze-repeats", 's'), ("truncate-set1", 't')]⟩
  match usage.splitFrom true args with
  | .error said => modify (·.misuse said)
  | .ok (options, words) =>
    let given := fun letters : String => letters.toList.any (isGiven · options)
    let aim : Octets.Aim := ⟨given "cC", given "d", given "s", given "t"⟩
    let least := if aim.deletes == aim.squeezes then 2 else 1
    let most := if aim.deletes && !aim.squeezes then 1 else 2
    let misuse := fun (said : Text) (more : Option String) => modify fun s =>
      let s := s.say said
      let s := more.elim s fun line => s.write 2 (line.toList ++ ['\n'])
      s.hint.withStatus 1
    match words, words.drop most with
    | [], _ => misuse "missing operand".toList none
    | _, extra :: _ =>
      misuse ("extra operand ".toList ++ inCurlyQuotes extra)
        (if words.length = 2 then
          some "Only one string may be given when deleting without squeezing repeats."
        else none)
    | first :: more, [] =>
      if words.length < least then
        misuse ("missing operand after ".toList ++ inCurlyQuotes first)
          (some (if aim.squeezes then
            "Two strings must be given when both deleting and squeezing repeats."
          else "Two strings must be given when translating."))
      else
        let warn := fun (said : List Text) => modify fun s : Shell => said.foldl Shell.say s
        let (firstSet, said) := Octets.read first
        warn said
        let second := more.head?.map Octets.read
        match firstSet, second.map Prod.fst with
        | .error said, _ => Run.fail said
        | _, some (.error said) =>
          warn ((second.map Prod.snd).getD [])
          Run.fail said
        | .ok firstSet, secondSet =>
          warn ((second.map Prod.snd).getD [])
          match aim.mapping firstSet (secondSet.bind Except.toOption) with
          | .error said => Run.fail said
          | .ok mapping =>
            let tables := mapping.tables
            match (← get).channel? 0 with
            | none => Run.fail "read error: Bad file descriptor".toList
            | some id =>
              let found ← Run.eachPiece id none fun last text => do
                let (text, last) := tables.apply last text
                Run.print text
                return last
              if let .error (fault, _) := found then
                Run.fail ("read error: ".toList ++ fault.reason)

end NameTables.Script.Utility
