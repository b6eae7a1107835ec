import NameTables.Script.Utility.Basic

/-!
# Parts of lines

Programs that take parts out of lines, fields or octets, and that put lines of several files beside
each other.

## Main definitions

* `Span`, `readSpans` — stretches of numbers, and how they are told.
* `chosen` — the elements of a list in stretches.
* `printParts` — what stands at some places in each line.
* `printBeside` — lines beside each other.
* `printWrapped` — lines that are not too long.
-/

namespace NameTables.Script.Utility

/-! ### Stretches of numbers -/

/-- The numbers from one to another, or from one on. -/
structure Span where
  /-- The first number, which is not zero. -/
  first : Nat
  /-- The last number, if there is one. -/
  last : Option Nat

namespace Span

/-- The stretch from the beginning of one to the end of one of the two that comes last. -/
def union (s t : Span) : Span := ⟨s.first, do return max (← s.last) (← t.last)⟩

/-- Stretches, in the order of their first numbers, with those that overlap put together. -/
def merge : List Span → List Span
  | [] => []
  | s :: rest => go s rest
where
  /-- The same, for a stretch and those behind it. -/
  go (s : Span) : List Span → List Span
    | [] => [s]
    | t :: rest => if s.last.all (t.first ≤ ·) then go (s.union t) rest else s :: go t rest

/-- The stretches between others, from a number on. -/
def complement : (start : Nat) → List Span → List Span
  | start, [] => [⟨start, none⟩]
  | start, s :: rest =>
    let gap : List Span := if start < s.first then [⟨start, some (s.first - 1)⟩] else []
    match s.last with
    | none => gap
    | some last => gap ++ complement (last + 1) rest

/-- The elements of a list in a stretch, the first of which has the number one. -/
def pick {α : Type} (s : Span) (l : List α) : List α :=
  let l := match s.last with | some last => l.take last | none => l
  l.drop (s.first - 1)

end Span

/-- How stretches are spoken of. -/
structure SpanWords where
  /-- There is no number zero. -/
  zero : String
  /-- A stretch has two hyphens. -/
  twice : String
  /-- Something is no number. -/
  strange : String
  /-- What a number stands for. -/
  noun : String

/-- The words for fields. -/
def fieldWords : SpanWords :=
  ⟨"fields are numbered from 1", "invalid field range", "invalid field value ", "field number "⟩

/-- The words for octets. -/
def octetWords : SpanWords :=
  ⟨"byte/character positions are numbered from 1", "invalid byte or character range",
    "invalid byte/character position ", "byte/character offset "⟩

/-- The number that a list of stretches begins with, if there is one, and what follows. -/
def spanNumberLead (w : SpanWords) (s : Text) : Except Text (Option Nat × Text) :=
  match digitsLead? 10 s with
  | none => .ok (none, s)
  | some (n, rest) =>
    if 18446744073709551615 ≤ n then
      .error (w.noun.toList ++ inCurlyQuotes (s.takeWhile Char.isDigit) ++ " is too large".toList)
    else .ok (some n, rest)

/-- The stretches that a word tells, with commas or blanks between them; or what is wrong. -/
def readSpans (w : SpanWords) : (fuel : Nat) → Text → Except Text (List Span)
  | 0, _ => .ok []
  | fuel + 1, s => do
    let (low, rest) ← spanNumberLead w s
    let zero : Except Text (List Span) := .error w.zero.toList
    let isEnd := fun s : Text => s.head?.all fun c => c = ',' || c = ' ' || c = '\t'
    let goOn := fun (span : Span) (rest : Text) =>
      match rest with
      | [] => Except.ok [span]
      | _ :: rest => do return span :: (← readSpans w fuel rest)
    match rest with
    | '-' :: rest =>
      if low = some 0 then zero
      else
        let (high, rest) ← spanNumberLead w rest
        if isEnd rest then
          match low, high with
          | none, none => .error "invalid range with no endpoint: -".toList
          | low, none => goOn ⟨low.getD 1, none⟩ rest
          | low, some high =>
            if high < low.getD 1 then .error "invalid decreasing range".toList
            else goOn ⟨low.getD 1, some high⟩ rest
        else if rest.head? = some '-' then .error w.twice.toList
        else .error (w.strange.toList ++ inCurlyQuotes rest)
    | rest =>
      if !isEnd rest then .error (w.strange.toList ++ inCurlyQuotes rest)
      else
        match low with
        | none => zero
        | some 0 => zero
        | some n => goOn ⟨n, some n⟩ rest

/-- The stretches that a word tells, in order, or those between them. -/
def spansOf (w : SpanWords) (others : Bool) (word : Text) : Except Text (List Span) := do
  let spans ← readSpans w (word.length + 1) word
  let spans := Span.merge (spans.mergeSort fun a b => a.first ≤ b.first)
  return if others then Span.complement 1 spans else spans

/-- The elements of a list in stretches, those of each by themselves. -/
def chosen {α : Type} (spans : List Span) (l : List α) : List (List α) :=
  (spans.map (·.pick l)).filter (!·.isEmpty)

/-! ### Parts of each line -/

/-- Which parts of lines are printed. -/
structure Parts where
  /-- The numbers of the parts. -/
  spans : List Span
  /-- What separates fields, if parts are fields. -/
  separator : Option Char
  /-- What stands between parts, if that is told. -/
  joint : Option Text
  /-- Are lines with one field passed over? -/
  skips : Bool
  /-- The end of lines. -/
  stop : Char

/-- The parts of a line with its end. -/
def Parts.ofLine (p : Parts) (line : Text) : Text :=
  match p.separator with
  | none => Text.join (p.joint.getD []) (chosen p.spans line) ++ [p.stop]
  | some c =>
    match splitAt (· = c) line with
    | [_] => if p.skips then [] else line ++ [p.stop]
    | fields => Text.join (p.joint.getD [c]) (chosen p.spans fields).flatten ++ [p.stop]

/-- The parts of lines, where an end of a line may be what separates fields. -/
def Parts.ofLines (p : Parts) (lines : List Text) : Text :=
  if p.separator = some p.stop then
    match lines with
    | [] => []
    | [line] => if p.skips then [] else line ++ [p.stop]
    | lines => Text.join (p.joint.getD [p.stop]) (chosen p.spans lines).flatten ++ [p.stop]
  else lines.flatMap p.ofLine

/-- Print parts of each line. -/
def printPartsOfLines : Utility :=
  Usage.program ⟨"nsz\x01", "bcdf\x02", [("bytes", 'b'), ("characters", 'c'), ("fields", 'f'),
    ("delimiter", 'd'), ("only-delimited", 's'), ("zero-terminated", 'z'), ("complement", '\x01'),
    ("output-delimiter", '\x02')]⟩ fun options names => do
    let refuse := fun said : Text => modify (·.misuse said)
    let separators := (options.filter (·.1 == 'd')).map Prod.snd
    match options.filter (fun o => o.1 ∈ ['b', 'c', 'f']) with
    | [] => refuse "you must specify a list of bytes, characters, or fields".toList
    | _ :: _ :: _ => refuse "only one list may be specified".toList
    | [(letter, word)] =>
      let isFields := letter = 'f'
      if separators.any (1 < ·.length) then
        refuse "the delimiter must be a single character".toList
      else if !isFields && !separators.isEmpty then
        refuse "an input delimiter may be specified only when operating on fields".toList
      else if !isFields && isGiven 's' options then
        refuse ("suppressing non-delimited lines makes sense\n"
          ++ "\tonly when operating on fields").toList
      else
        let w := if isFields then fieldWords else octetWords
        match spansOf w (isGiven '\x01' options) word with
        | .error said => refuse said
        | .ok spans =>
          let told := separators.getLast?.map (·.head?.getD '\x00')
          let stop := if isGiven 'z' options then '\x00' else '\n'
          let joint := (wordOf? '\x02' options).map fun s => if s.isEmpty then ['\x00'] else s
          let p : Parts :=
            ⟨spans, if isFields then some (told.getD '\t') else none, joint,
              isGiven 's' options, stop⟩
          let fail := fun (name : Text) (fault : IoFault) =>
            Run.fail (asShellWord name ++ ": ".toList ++ fault.reason)
          Run.withInputs names (fun name id => do
            let found ← if p.separator = some stop then do
                let found ← Run.readAllFrom id
                match found with
                | .error fault => pure (Except.error fault)
                | .ok text =>
                  let (ended, last) := Run.splitEndedLines stop text
                  Run.print (p.ofLines (if last.isEmpty then ended else ended ++ [last]))
                  pure (.ok ())
              else do
                let found ← Run.eachLines id stop (fun _ => false) () fun _ lines _ =>
                  Run.print (p.ofLines lines)
                match found with
                | .ok () => pure (.ok ())
                | .error (fault, ()) => pure (.error fault)
            match found with
            | .ok () => pure ()
            | .error fault => fail name fault) fail
          if (names.isEmpty || ['-'] ∈ names) && ((← get).channel? 0).isNone then
            fail ['-'] .badDescriptor

end NameTables.Script.Utility
