import NameTables.Script.Utility.Symbols

/-!
# Regular expressions

What a regular expression matches: of all matches that begin first the longest one, and of those
the one whose first parts are longest.

A match is looked for in states of reading.  `Regex.ends` tells all states in which a match may end
that begins in a given one, each of them once, and the farthest one first.

## Main definitions

* `Regex` — regular expressions.
* `Regex.State` — how far reading has come, and what the groups have taken.
* `Regex.ends`, `Regex.search?` — where matches end, and the first match.
-/

namespace NameTables.Script

/-- What characters a part of a regular expression accepts. -/
inductive Accepted
  /-- Any character. -/
  | any
  /-- One character. -/
  | char (c : Char)
  /-- The characters in these ranges and of these classes, or all others if `negated` says so. -/
  | among (negated : Bool) (ranges : List (Char × Char)) (classes : List (Char → Bool))

/-- A place between characters. -/
inductive Point
  /-- The beginning of the text. -/
  | start
  /-- The end of the text. -/
  | stop
  /-- The beginning of a line. -/
  | lineStart
  /-- The end of a line. -/
  | lineStop
  /-- The beginning of a word. -/
  | wordStart
  /-- The end of a word. -/
  | wordStop
  /-- Either end of a word. -/
  | wordEdge
  /-- Neither end of a word. -/
  | noEdge

/-- A regular expression. -/
inductive Regex
  /-- Nothing. -/
  | empty
  /-- A character. -/
  | one (accepted : Accepted)
  /-- Nothing, at a certain place. -/
  | at (p : Point)
  /-- One after the other. -/
  | seq (a b : Regex)
  /-- Either of them. -/
  | either (a b : Regex)
  /-- As often as `least` tells at least, and as `most` tells at most. -/
  | many (least : Nat) (most : Option Nat) (a : Regex)
  /-- A group with a number. -/
  | group (n : Nat) (a : Regex)
  /-- What a group has taken, once more. -/
  | again (n : Nat)

namespace Regex

/-- What is said of a class of characters by a scanner of words. -/
def inWord (c : Char) : Bool := c.isAlphanum || c = '_' || (0xc0 ≤ c.toNat && !isStray c)

/-- How far reading has come. -/
structure State where
  /-- The character before, if there is one. -/
  before : Option Char
  /-- What is still to be read. -/
  rest : Text
  /-- How much has been read. -/
  position : Nat
  /-- The groups that have taken something: their numbers, what was to be read at their beginning,
  the position of that, and how much they have taken. -/
  groups : List (Nat × Text × Nat × Nat)

namespace State

/-- The state at the beginning of a text. -/
def ofText (s : Text) : State := ⟨none, s, 0, []⟩

/-- The state behind the next character. -/
def next? (st : State) : Option (Char × State) :=
  match st.rest with
  | [] => none
  | c :: rest => some (c, { st with before := some c, rest, position := st.position + 1 })

/-- What a group has taken. -/
def group? (st : State) (n : Nat) : Option Text :=
  (st.groups.lookup n).map fun (rest, _, length) => rest.take length

end State

/-- Is a character accepted? -/
def accepts (a : Accepted) (c : Char) : Bool :=
  match a with
  | .any => !isStray c
  | .char d => c = d
  | .among negated ranges classes =>
    (negated != (ranges.any (fun (low, high) => low ≤ c && c ≤ high) || classes.any (· c)))
      && !(negated && isStray c)

/-- Is a character accepted, in whatever case? -/
def acceptsAnyCase (a : Accepted) (c : Char) : Bool :=
  accepts a c || accepts a c.toLower || accepts a c.toUpper

/-- Is the state at such a place? -/
def State.isAt (st : State) (p : Point) : Bool :=
  let before := st.before.any inWord
  let after := st.rest.head?.any inWord
  match p with
  | .start => st.before.isNone
  | .stop => st.rest.isEmpty
  | .lineStart => st.before.isNone || st.before = some '\n'
  | .lineStop => st.rest.isEmpty || st.rest.head? = some '\n'
  | .wordStart => !before && after
  | .wordStop => before && !after
  | .wordEdge => before != after
  | .noEdge => before == after

/-- States from two lists that begin with the farthest one, in the same order; of two at one
position, only the one from the first list, unless `distinct` tells them apart. -/
def merge (distinct : Bool) : List State → List State → List State
  | [], t => t
  | s, [] => s
  | a :: s, b :: t =>
    if a.position < b.position then b :: merge distinct (a :: s) t
    else if b.position < a.position then a :: merge distinct s (b :: t)
    else if distinct then a :: merge distinct s (b :: t)
    else merge distinct (a :: s) t
termination_by s t => s.length + t.length

/-- The states after characters that are accepted, `most` of them at most, behind those that were
found already; the farthest one first. -/
def spans (accept : Char → Bool) : (least : Nat) → (most : Option Nat) → Text → State → List State →
    List State
  | least, most, c :: rest, st, found =>
    let found := if least = 0 then st :: found else found
    if most ≠ some 0 && accept c then
      spans accept (least - 1) (most.map (· - 1)) rest
        { st with before := some c, rest, position := st.position + 1 } found
    else found
  | least, _, [], st, found => if least = 0 then st :: found else found

/-- States that are reached by repeating a step, each with how often it was taken so far; the
search goes on where the last step has come farthest.  What was `found` comes last first. -/
def repeated (distinct : Bool) (step : State → List State) (least : Nat) (most : Option Nat) :
    (fuel : Nat) → (todo : List (State × Nat)) → (found : List (State × Nat)) → List (State × Nat)
  | 0, _, found => found
  | _, [], found => found
  | fuel + 1, (st, count) :: todo, found =>
    if !distinct && found.any fun (other, n) => other.position = st.position && n = count then
      repeated distinct step least most fuel todo found
    else
      let bound := most.getD least
      let more :=
        if most.any (· ≤ count) then []
        else
          (step st).filterMap fun after =>
            if after.position = st.position then
              -- a step that comes no farther may only fill up what is missing
              if count < least then some (after, least) else none
            else some (after, if most.isNone then min (count + 1) least else min (count + 1) bound)
      repeated distinct step least most fuel (more ++ todo) ((st, count) :: found)

/-- Does what is to be read begin with a text, in whatever case if `anyCase` says so? -/
def dropSame? (anyCase : Bool) (s : Text) (st : State) : Option State :=
  s.foldl (fun found c =>
    found.bind fun st =>
      st.next?.bind fun (d, after) =>
        if c = d || (anyCase && c.toLower = d.toLower) then some after else none) (some st)

/-- Does the regular expression ask for what a group has taken? -/
def looksBack : Regex → Bool
  | .again _ => true
  | .seq a b => a.looksBack || b.looksBack
  | .either a b => a.looksBack || b.looksBack
  | .many _ _ a => a.looksBack
  | .group _ a => a.looksBack
  | _ => false

/-- The states in which a match may end, the farthest one first. -/
def ends (anyCase distinct : Bool) : Regex → State → List State
  | .empty, st => [st]
  | .one a, st =>
    match st.next? with
    | some (c, after) => if (if anyCase then acceptsAnyCase a c else accepts a c) then [after] else []
    | none => []
  | .at p, st => if st.isAt p then [st] else []
  | .seq a b, st =>
    (ends anyCase distinct a st).foldr
      (fun middle found => merge distinct (ends anyCase distinct b middle) found) []
  | .either a b, st => merge distinct (ends anyCase distinct a st) (ends anyCase distinct b st)
  | .many least most (.one a), st =>
    spans (if anyCase then acceptsAnyCase a else accepts a) least most st.rest st []
  | .many least most a, st =>
    let fuel := (st.rest.length + 2) * (st.rest.length + 2 + least + most.getD 0)
    let found := repeated distinct (ends anyCase distinct a) least most fuel [(st, 0)] []
    let enough := found.reverse.filterMap fun (after, count) =>
      if least ≤ count then some after else none
    enough.foldr (fun after found => merge distinct [after] found) []
  | .group n a, st =>
    (ends anyCase distinct a st).map fun after =>
      { after with
        groups := (n, st.rest, st.position, after.position - st.position)
          :: after.groups.filter (·.1 != n) }
  | .again n, st =>
    match st.group? n with
    | some s => (dropSame? anyCase s st).toList
    | none => []

/-- The state in which the longest match ends that begins in a given one. -/
def end? (r : Regex) (anyCase : Bool) (st : State) : Option State :=
  (r.ends anyCase r.looksBack st).head?

/-- The first state from a given one on in which a match begins, and the one in which the longest
such match ends. -/
def searchFrom? (r : Regex) (anyCase looksBack : Bool) : (fuel : Nat) → State →
    Option (State × State)
  | 0, _ => none
  | fuel + 1, st =>
    match (r.ends anyCase looksBack st).head? with
    | some after => some (st, after)
    | none =>
      match st.next? with
      | some (_, next) => searchFrom? r anyCase looksBack fuel next
      | none => none

/-- The first state from a given one on in which a match begins, and the one in which the longest
such match ends. -/
def search? (r : Regex) (anyCase : Bool) (st : State) : Option (State × State) :=
  r.searchFrom? anyCase r.looksBack (st.rest.length + 1) st

end Regex

end NameTables.Script
