import NameTables.Document.Yaml.ScalarText
import NameTables.Document.Yaml.TagText

/-!
# YAML tokens

The tokens of a document.  Block collections have no brackets; where a line is indented further
than the collection around it a token opens one, and where it is indented less a token closes it.
That a scalar is a key shows only when the colon after it is reached, so the place of each token
that may begin a key is remembered, and the tokens for the key are put in there later.

## Main definitions

* `Yaml.Token` — the tokens.
* `Yaml.Lexer` — what is known while the text is read.
* `Yaml.Lexer.step?` — one token more.
* `Yaml.tokens?` — the tokens of a text.
-/

namespace NameTables

namespace Yaml

/-- How a scalar is written. -/
inductive Style
  /-- Without quotes. -/
  | plain
  /-- Between quotes. -/
  | quoted
  /-- As a block whose lines are kept. -/
  | literal
  /-- As a block whose lines are folded. -/
  | folded
  deriving DecidableEq, Repr

/-- A token. -/
inductive Token
  /-- A directive. -/
  | directive (d : Directive)
  /-- Three hyphens: a document begins. -/
  | documentStart
  /-- Three dots: a document ends. -/
  | documentEnd
  /-- A block list begins. -/
  | blockListStart
  /-- A block record begins. -/
  | blockRecordStart
  /-- A block collection ends. -/
  | blockEnd
  /-- An opening bracket. -/
  | flowListStart
  /-- A closing bracket. -/
  | flowListEnd
  /-- An opening brace. -/
  | flowRecordStart
  /-- A closing brace. -/
  | flowRecordEnd
  /-- A hyphen before an item. -/
  | blockEntry
  /-- A comma. -/
  | flowEntry
  /-- A key follows. -/
  | key
  /-- The value of a key follows. -/
  | value
  /-- A reference to an anchored node. -/
  | alias (name : Text)
  /-- The name of the node that follows. -/
  | anchor (name : Text)
  /-- The type of the node that follows, as handle and suffix. -/
  | tag (handle : Text) (suffix : Bytes)
  /-- A scalar. -/
  | scalar (style : Style) (text : Text)
  deriving DecidableEq, Repr

/-- A token that may turn out to begin a key. -/
structure Candidate where
  /-- The number of the token. -/
  number : Nat
  /-- Must it begin a key? -/
  required : Bool
  /-- Its index in the text. -/
  index : Nat
  /-- Its line. -/
  line : Nat
  /-- Its column. -/
  column : Nat
  deriving Repr

/-- What is known while a text is read. -/
structure Lexer where
  /-- Where reading stands. -/
  cursor : Cursor
  /-- The tokens so far, the last one first. -/
  found : List Token
  /-- The column of the innermost block collection plus one, or zero outside of all. -/
  level : Nat
  /-- The same for the block collections around it. -/
  outerLevels : List Nat
  /-- The candidate inside the innermost flow collection. -/
  candidate : Option Candidate
  /-- The candidates of the flow collections around it. -/
  outerCandidates : List (Option Candidate)
  /-- May a key begin here? -/
  keyAllowed : Bool

namespace Lexer

/-- The beginning of a text. -/
def ofText (s : Text) : Lexer := ⟨.ofText s, [], 0, [], none, [], true⟩

/-- Inside a flow collection? -/
def inFlow (l : Lexer) : Bool := !l.outerCandidates.isEmpty

/-- Add a token at the end. -/
def push (l : Lexer) (t : Token) : Lexer := { l with found := t :: l.found }

/-- Put a token in before the token with a number. -/
def insertAt (l : Lexer) (number : Nat) (t : Token) : Lexer :=
  let later := l.found.length - number
  { l with found := l.found.take later ++ t :: l.found.drop later }

/-- Open a block collection at a column, unless one is open there already; its token is put in
before the token with a number. -/
def openBlock (l : Lexer) (column number : Nat) (t : Token) : Lexer :=
  -- a level is the column plus one, so this collection or a deeper one is open already
  if l.inFlow || decide (column < l.level) then l
  else { l.insertAt number t with level := column + 1, outerLevels := l.level :: l.outerLevels }

/-- Close the block collections deeper than a level. -/
def closeLevels (level : Nat) : (current : Nat) → (outer : List Nat) → List Token →
    Nat × List Nat × List Token
  | current, [], found => (current, [], found)
  | current, up :: outer, found =>
    if level < current then closeLevels level up outer (.blockEnd :: found)
    else (current, up :: outer, found)

/-- Close the block collections deeper than a level, unless inside a flow collection. -/
def closeBlocks (l : Lexer) (level : Nat) : Lexer :=
  if l.inFlow then l
  else
    let (current, outer, found) := closeLevels level l.level l.outerLevels l.found
    { l with level := current, outerLevels := outer, found := found }

/-- Give up the candidate; one that must be a key is a fault. -/
def dropCandidate? (l : Lexer) : Option Lexer :=
  if l.candidate.any (·.required) then none else some { l with candidate := none }

/-- Take the next token for a candidate, if a key may begin here. -/
def saveCandidate? (l : Lexer) : Option Lexer :=
  if l.keyAllowed then
    l.dropCandidate?.map fun l =>
      { l with candidate := some {
          number := l.found.length
          required := !l.inFlow && l.level == l.cursor.column + 1
          index := l.cursor.index
          line := l.cursor.line
          column := l.cursor.column } }
  else some l

/-- The candidate as long as it may be a key: on one line and not too far back.  One that must be
a key and no longer can is a fault. -/
def fresh? (c : Cursor) : Option Candidate → Option (Option Candidate)
  | none => some none
  | some k =>
    if k.line < c.line ∨ k.index + 1024 < c.index then if k.required then none else some none
    else some (some k)

/-- Give up all candidates that can no longer be keys. -/
def dropStale? (l : Lexer) : Option Lexer := do
  return { l with
    candidate := ← fresh? l.cursor l.candidate
    outerCandidates := ← l.outerCandidates.mapM (fresh? l.cursor) }

/-- Pass spaces, comments and line ends.  Tabs are passed where they cannot indent. -/
def skipSpace : (fuel : Nat) → Lexer → Lexer
  | 0, l => l
  | fuel + 1, l =>
    let c := l.cursor
    let c := if c.column == 0 && c.sees byteOrderMark then c.next else c
    let c := c.skipWhile fun x => x == ' ' || ((l.inFlow || !l.keyAllowed) && x == '\t')
    let c := if c.sees '#' then c.skipWhile (!isBreak ·) else c
    if c.seesIn isBreak then
      skipSpace fuel { l with cursor := c.takeBreak.2, keyAllowed := !l.inFlow || l.keyAllowed }
    else { l with cursor := c }

/-! ### Tokens by kind -/

/-- An edge of the document, `n` characters long. -/
def edge? (l : Lexer) : Option Lexer :=
  ({ l.closeBlocks 0 with keyAllowed := false } : Lexer).dropCandidate?

/-- An opening bracket or brace. -/
def openFlow? (l : Lexer) (t : Token) : Option Lexer := do
  let l ← l.saveCandidate?
  return { l.push t with
    cursor := l.cursor.next
    candidate := none
    outerCandidates := l.candidate :: l.outerCandidates
    keyAllowed := true }

/-- A closing bracket or brace. -/
def closeFlow? (l : Lexer) (t : Token) : Option Lexer := do
  let l ← l.dropCandidate?
  let l := { l.push t with cursor := l.cursor.next, keyAllowed := false }
  match l.outerCandidates with
  | [] => return l
  | k :: outer => return { l with candidate := k, outerCandidates := outer }

/-- A comma. -/
def flowEntry? (l : Lexer) : Option Lexer := do
  let l ← l.dropCandidate?
  return { l.push .flowEntry with cursor := l.cursor.next, keyAllowed := true }

/-- A hyphen before an item. -/
def blockEntry? (l : Lexer) : Option Lexer := do
  if !l.inFlow && !l.keyAllowed then none
  let l ← (l.openBlock l.cursor.column l.found.length .blockListStart).dropCandidate?
  return { l.push .blockEntry with cursor := l.cursor.next, keyAllowed := true }

/-- A question mark before a key. -/
def key? (l : Lexer) : Option Lexer := do
  if !l.inFlow && !l.keyAllowed then none
  let l ← (l.openBlock l.cursor.column l.found.length .blockRecordStart).dropCandidate?
  return { l.push .key with cursor := l.cursor.next, keyAllowed := !l.inFlow }

/-- A colon.  If there is a candidate it was a key, and the tokens for that are put in. -/
def value? (l : Lexer) : Option Lexer :=
  match l.candidate with
  | some k =>
    -- the start of the record goes in front of the mark of its first key
    let l := (l.insertAt k.number .key).openBlock k.column k.number .blockRecordStart
    some { l.push .value with cursor := l.cursor.next, candidate := none, keyAllowed := false }
  | none =>
    if !l.inFlow && !l.keyAllowed then none
    else
      let l := l.openBlock l.cursor.column l.found.length .blockRecordStart
      some { l.push .value with cursor := l.cursor.next, keyAllowed := !l.inFlow }

/-- An anchor or alias. -/
def anchor? (l : Lexer) (make : Text → Token) : Option Lexer := do
  let l ← l.saveCandidate?
  let (name, c) ← anchorName? l.cursor.next
  return { l.push (make name) with cursor := c, keyAllowed := false }

/-- A tag. -/
def tagToken? (l : Lexer) : Option Lexer := do
  let l ← l.saveCandidate?
  let (handle, suffix, c) ← tag? l.inFlow l.cursor
  return { l.push (.tag handle suffix) with cursor := c, keyAllowed := false }

/-- A block scalar. -/
def block? (l : Lexer) (folded : Bool) : Option Lexer := do
  let l ← l.dropCandidate?
  let (s, c) ← blockScalar? folded l.level l.cursor.next
  return { l.push (.scalar (if folded then .folded else .literal) s) with
    cursor := c, keyAllowed := true }

/-- A scalar between quotes. -/
def quoted? (l : Lexer) (single : Bool) : Option Lexer := do
  let l ← l.saveCandidate?
  let (s, c) ← quotedScalar? single (l.cursor.rest.length + 1) [] l.cursor.next
  return { l.push (.scalar .quoted s) with cursor := c, keyAllowed := false }

/-- A plain scalar. -/
def plain? (l : Lexer) : Option Lexer := do
  let l ← l.saveCandidate?
  let (s, c, lineEnded) ←
    plainScalar? l.inFlow l.level (l.cursor.rest.length + 1) [] Gap.none l.cursor
  return { l.push (.scalar .plain s) with cursor := c, keyAllowed := lineEnded }

/-- May a plain scalar begin at the cursor? -/
def plainBegins (l : Lexer) (x : Char) : Bool :=
  let special := "-?:,[]\x7b\x7d#&*!|>'\"%@\x60".toList
  !(isGap x || isBreak x || special.contains x)
    || (x == '-' && !l.cursor.aheadIs 1 isGap)
    || (!l.inFlow && (x == '?' || x == ':') && !l.cursor.spaceAhead 1)

/-- The token that begins with a character; space lies behind. -/
def tokenAt? (l : Lexer) (x : Char) : Option Lexer :=
  let c := l.cursor
  if c.column == 0 && x == '%' then do
    let l ← l.edge?
    let (d, c) ← directive? c.next
    return { l.push (.directive d) with cursor := c }
  else if c.atDocumentMark '-' then
    l.edge?.map fun l => { l.push .documentStart with cursor := c.skip 3 }
  else if c.atDocumentMark '.' then
    l.edge?.map fun l => { l.push .documentEnd with cursor := c.skip 3 }
  else if x == '[' then l.openFlow? .flowListStart
  else if x == '\x7b' then l.openFlow? .flowRecordStart
  else if x == ']' then l.closeFlow? .flowListEnd
  else if x == '\x7d' then l.closeFlow? .flowRecordEnd
  else if x == ',' then l.flowEntry?
  else if x == '-' && c.spaceAhead 1 then l.blockEntry?
  else if x == '?' && (l.inFlow || c.spaceAhead 1) then l.key?
  else if x == ':' && (l.inFlow || c.spaceAhead 1) then l.value?
  else if x == '*' then l.anchor? .alias
  else if x == '&' then l.anchor? .anchor
  else if x == '!' then l.tagToken?
  else if x == '|' && !l.inFlow then l.block? false
  else if x == '>' && !l.inFlow then l.block? true
  else if x == '\'' then l.quoted? true
  else if x == '\x22' then l.quoted? false
  else if l.plainBegins x then l.plain?
  else none

/-- Read one token more.  The second part is false at the end of the text. -/
def step? (l : Lexer) : Option (Lexer × Bool) := do
  let l ← (skipSpace (l.cursor.rest.length + 1) l).dropStale?
  match l.cursor.head? with
  | some x => return (← (l.closeBlocks (l.cursor.column + 1)).tokenAt? x, true)
  | none => return (← l.edge?, false)

/-- Read tokens to the end of the text. -/
def run? : (fuel : Nat) → Lexer → Option Lexer
  | 0, _ => none
  | fuel + 1, l =>
    match l.step? with
    | none => none
    | some (l, true) => run? fuel l
    | some (l, false) => some l

end Lexer

/-- The tokens of a text, every character of which has to be allowed. -/
def tokens? (s : Text) : Option (List Token) :=
  if s.all isAllowed then ((Lexer.ofText s).run? (s.length + 2)).map (·.found.reverse) else none

end Yaml

end NameTables
