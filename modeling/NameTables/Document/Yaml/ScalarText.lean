import NameTables.Document.Yaml.Cursor

/-!
# The texts of YAML scalars

A scalar is written plain, between single or double quotes, or as an indented block.  Where a
scalar runs over several lines its line breaks are folded: a single break becomes a space, and of
several all but the first are kept.

## Main definitions

* `Yaml.Gap` — the space inside a scalar that is not yet part of its text.
* `Yaml.plainScalar?`, `Yaml.quotedScalar?`, `Yaml.blockScalar?` — the text of a scalar, and the
  cursor behind it.
-/

namespace NameTables

namespace Yaml

/-! ### Folding -/

/-- Space between two words of a scalar. -/
structure Gap where
  /-- Spaces and tabs, while no line has ended. -/
  blanks : Text
  /-- Has a line ended? -/
  broken : Bool
  /-- The first line break. -/
  firstBreak : Text
  /-- The line breaks after the first. -/
  moreBreaks : Text
  deriving Repr

namespace Gap

/-- No space. -/
def none : Gap := ⟨[], false, [], []⟩

/-- The text that the space folds to. -/
def fold (g : Gap) : Text :=
  if g.broken then
    if g.firstBreak = ['\n'] then if g.moreBreaks.isEmpty then [' '] else g.moreBreaks
    else g.firstBreak ++ g.moreBreaks
  else g.blanks

/-- Add a space or tab; after a line end it is indentation and counts for nothing. -/
def addBlank (g : Gap) (x : Char) : Gap :=
  if g.broken then g else { g with blanks := g.blanks ++ [x] }

/-- Add a line break; spaces before the first one count for nothing. -/
def addBreak (g : Gap) (b : Text) : Gap :=
  if g.broken then { g with moreBreaks := g.moreBreaks ++ b }
  else { g with blanks := [], broken := true, firstBreak := b }

end Gap

/-- Pass gaps and line breaks. -/
def takeGap : (fuel : Nat) → Gap → Cursor → Gap × Cursor
  | 0, g, c => (g, c)
  | fuel + 1, g, c =>
    match c.head? with
    | some x =>
      if isGap x then takeGap fuel (g.addBlank x) c.next
      else if isBreak x then takeGap fuel (g.addBreak c.takeBreak.1) c.takeBreak.2
      else (g, c)
    | none => (g, c)

/-! ### Plain scalars -/

/-- A character with a meaning of its own inside a flow collection. -/
def isFlowIndicator (c : Char) : Bool :=
  c == ',' || c == '[' || c == ']' || c == '\x7b' || c == '\x7d'

/-- A word of a plain scalar: up to space, or a colon before space, or inside a flow collection
one of its indicators.  A colon right before an indicator is a fault there. -/
def plainWord? (inFlow : Bool) : (fuel : Nat) → Cursor → Option (Text × Cursor)
  | 0, c => some ([], c)
  | fuel + 1, c =>
    match c.head? with
    | none => some ([], c)
    | some x =>
      if isGap x || isBreak x then some ([], c)
      else if inFlow && x == ':' && c.aheadIs 1 (fun y => isFlowIndicator y || y == '?') then none
      else if x == ':' && c.spaceAhead 1 then some ([], c)
      else if inFlow && isFlowIndicator x then some ([], c)
      else (plainWord? inFlow fuel c.next).map fun (word, c) => (x :: word, c)

/-- Does a tab stand where only spaces may indent? -/
def tabIndents (g : Gap) (least : Nat) (c : Cursor) : Bool :=
  g.broken && decide (c.column < least) && c.sees '\t'

/-- Pass the space after a word of a plain scalar, in which a tab must not indent. -/
def plainGap? (least : Nat) : (fuel : Nat) → Gap → Cursor → Option (Gap × Cursor)
  | 0, g, c => some (g, c)
  | fuel + 1, g, c =>
    match c.head? with
    | some x =>
      if isGap x then
        if tabIndents g least c then none else plainGap? least fuel (g.addBlank x) c.next
      else if isBreak x then plainGap? least fuel (g.addBreak c.takeBreak.1) c.takeBreak.2
      else some (g, c)
    | none => some (g, c)

/-- The words of a plain scalar with the space between them folded.  It ends before a comment, an
edge of the document, a character it cannot hold, or, in block context, a line that is not
indented by `least` columns.  The last part says whether the space behind it ended a line. -/
def plainScalar? (inFlow : Bool) (least : Nat) :
    (fuel : Nat) → Text → Gap → Cursor → Option (Text × Cursor × Bool)
  | 0, s, g, c => some (s, c, g.broken)
  | fuel + 1, s, g, c => do
    if c.atDocumentEdge || c.sees '#' then return (s, c, g.broken)
    let (word, c) ← plainWord? inFlow (c.rest.length + 1) c
    let (s, g) := if word.isEmpty then (s, g) else (s ++ g.fold ++ word, Gap.none)
    if !(c.seesIn isGap || c.seesIn isBreak) then return (s, c, g.broken)
    let (g, c) ← plainGap? least (c.rest.length + 1) g c
    if !inFlow && decide (c.column < least) then return (s, c, g.broken)
    plainScalar? inFlow least fuel s g c

/-! ### Quoted scalars -/

/-- The character that a one-letter escape stands for. -/
def escapeOf? : Char → Option Char
  | '0' => some '\x00'
  | 'a' => some '\x07'
  | 'b' => some '\x08'
  | 't' => some '\t'
  | '\t' => some '\t'
  | 'n' => some '\n'
  | 'v' => some '\x0b'
  | 'f' => some '\x0c'
  | 'r' => some '\r'
  | 'e' => some '\x1b'
  | ' ' => some ' '
  | '\x22' => some '\x22'
  | '/' => some '/'
  | '\\' => some '\\'
  | 'N' => some '\u0085'
  | '_' => some '\u00a0'
  | 'L' => some '\u2028'
  | 'P' => some '\u2029'
  | _ => none

/-- The number of digits of an escape that gives a code point. -/
def codeDigits? : Char → Option Nat
  | 'x' => some 2
  | 'u' => some 4
  | 'U' => some 8
  | _ => none

/-- The character with a code point. -/
def charOf? (n : Nat) : Option Char := if h : n.isValidChar then some (Char.ofNatAux n h) else none

/-- An escape after its backslash, and the cursor behind it. -/
def escape? (c : Cursor) : Option (Char × Cursor) := do
  let x ← c.head?
  match codeDigits? x with
  | some n =>
    let digits := c.next.rest.take n
    if digits.length < n then none
    else return (← charOf? (← Literal.appendDigits? 16 0 digits), c.skip (n + 1))
  | none => return (← escapeOf? x, c.next)

/-- How a run of characters between quotes ends. -/
inductive RunEnd
  /-- Before space or the closing quote. -/
  | word
  /-- With a line break that is escaped and so leaves no space. -/
  | joined
  deriving DecidableEq, Repr

/-- The characters up to space or the closing quote. -/
def quotedRun? (single : Bool) : (fuel : Nat) → Cursor → Option (Text × RunEnd × Cursor)
  | 0, c => some ([], .word, c)
  | fuel + 1, c =>
    match c.head? with
    | none => some ([], .word, c)
    | some x =>
      if isGap x || isBreak x then some ([], .word, c)
      else if single && x == '\'' && c.ahead? 1 == some '\'' then
        (quotedRun? single fuel (c.skip 2)).map fun (s, e, c) => ('\'' :: s, e, c)
      else if x == (if single then '\'' else '\x22') then some ([], .word, c)
      else if !single && x == '\\' then
        if c.aheadIs 1 isBreak then some ([], .joined, c.next.takeBreak.2)
        else
          (escape? c.next).bind fun (y, c) =>
            (quotedRun? single fuel c).map fun (s, e, c) => (y :: s, e, c)
      else (quotedRun? single fuel c.next).map fun (s, e, c) => (x :: s, e, c)

/-- The text of a quoted scalar after its opening quote.  The text must not end before the closing
quote, nor a document begin or end there. -/
def quotedScalar? (single : Bool) : (fuel : Nat) → Text → Cursor → Option (Text × Cursor)
  | 0, _, _ => none
  | fuel + 1, s, c => do
    if c.atDocumentEdge || c.ended then none
    let (run, runEnd, c) ← quotedRun? single (c.rest.length + 1) c
    let s := s ++ run
    if c.sees (if single then '\'' else '\x22') then return (s, c.next)
    -- an escaped line break joins the lines without a space
    let before := if runEnd = .joined then { Gap.none with broken := true } else Gap.none
    let (g, c) := takeGap (c.rest.length + 1) before c
    quotedScalar? single fuel (s ++ g.fold) c

/-! ### Block scalars -/

/-- What becomes of the line breaks at the end of a block. -/
inductive Chomp
  /-- None is kept. -/
  | strip
  /-- The first is kept. -/
  | clip
  /-- All are kept. -/
  | keep
  deriving DecidableEq, Repr

/-- The sign that tells what becomes of the last line breaks. -/
def chompOf? : Char → Option Chomp
  | '+' => some .keep
  | '-' => some .strip
  | _ => none

/-- The indentation that a digit gives, which is not zero. -/
def indentDigit? (x : Char) : Option (Option Nat) :=
  if isDigit x then if x = '0' then some none else some (some (x.toNat - '0'.toNat)) else none

/-- An indentation that is given at the cursor, if one is: `some none` when there is none. -/
def indentAt? (c : Cursor) : Option (Option Nat × Cursor) :=
  match c.head?.bind indentDigit? with
  | some (some n) => some (some n, c.next)
  | some none => none
  | none => some (none, c)

/-- The header of a block: how to chomp and the indentation if it is given, in either order. -/
def blockHeader? (c : Cursor) : Option (Chomp × Option Nat × Cursor) :=
  match c.head?.bind chompOf? with
  | some chomp => (indentAt? c.next).map fun (n, c) => (chomp, n, c)
  | none =>
    (indentAt? c).map fun (n, c) =>
      match n, c.head?.bind chompOf? with
      | some _, some chomp => (chomp, n, c.next)
      | _, _ => (.clip, n, c)

/-- Pass the empty lines of a block: the greatest indentation seen, their line breaks, and the
cursor at the next line's text.  `indent` is zero while the indentation is unknown. -/
def blockBreaks? (indent : Nat) :
    (fuel : Nat) → (greatest : Nat) → Text → Cursor → Option (Nat × Text × Cursor)
  | 0, greatest, breaks, c => some (greatest, breaks, c)
  | fuel + 1, greatest, breaks, c =>
    let spaces := c.rest.takeWhile (· == ' ')
    let c := c.skip (if indent = 0 then spaces.length else min spaces.length (indent - c.column))
    let greatest := max greatest c.column
    if (indent = 0 ∨ c.column < indent) ∧ c.sees '\t' then none
    else if c.seesIn isBreak then
      blockBreaks? indent fuel greatest (breaks ++ c.takeBreak.1) c.takeBreak.2
    else some (greatest, breaks, c)

/-- What was read of a block. -/
structure Block where
  /-- The text so far. -/
  text : Text
  /-- The line break of the last line. -/
  lastBreak : Text
  /-- The line breaks of the empty lines after it. -/
  moreBreaks : Text
  /-- Did the last line begin with space? -/
  indented : Bool
  deriving Repr

/-- Add a line.  In a folded block the break before it becomes a space, or disappears before empty
lines, unless one of the two lines begins with space. -/
def Block.addLine (b : Block) (folded : Bool) (line lineBreak breaks : Text) : Block :=
  let indented := (line.head?.map isGap).getD false
  let between :=
    if folded && b.lastBreak == ['\n'] && !b.indented && !indented then
      if b.moreBreaks.isEmpty then [' '] else b.moreBreaks
    else b.lastBreak ++ b.moreBreaks
  ⟨b.text ++ between ++ line, lineBreak, breaks, indented⟩

/-- The lines of a block with a known indentation. -/
def blockLines? (folded : Bool) (indent : Nat) : (fuel : Nat) → Block → Cursor →
    Option (Block × Cursor)
  | 0, b, c => some (b, c)
  | fuel + 1, b, c => do
    if c.column = indent ∧ !c.ended then
      let (line, c) := c.takeWhile (!isBreak ·)
      let (lineBreak, c) := c.takeBreak
      let (_, breaks, c) ← blockBreaks? indent (c.rest.length + 1) 0 [] c
      blockLines? folded indent fuel (b.addLine folded line lineBreak breaks) c
    else return (b, c)

/-- The text of a block after its indicator.  Its lines are indented by at least `level` columns;
an indentation that is given counts from one column less. -/
def blockScalar? (folded : Bool) (level : Nat) (c : Cursor) : Option (Text × Cursor) := do
  let (chomp, given, c) ← blockHeader? c
  let c ← c.endLine?
  let indent := match given with
    | some n => level - 1 + n
    | none => 0
  let (greatest, breaks, c) ← blockBreaks? indent (c.rest.length + 1) 0 [] c
  let indent := if indent = 0 then max (max greatest level) 1 else indent
  let (b, c) ← blockLines? folded indent (c.rest.length + 1) ⟨[], [], breaks, false⟩ c
  let tail := match chomp with
    | .strip => []
    | .clip => b.lastBreak
    | .keep => b.lastBreak ++ b.moreBreaks
  return (b.text ++ tail, c)

end Yaml

end NameTables
