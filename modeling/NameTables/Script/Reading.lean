import NameTables.Script.Token

/-!
# Reading scripts

From the text of a script to its commands.  A script is read unit by unit: a unit is what stands
on a line, or on more where a line leaves something open.  A shell carries a unit out before it
reads the next one, so a fault in a script only shows when it is reached.

Reading proceeds from left to right and never goes back; how deep it may descend is bounded by the
length of the text, which no script reaches.

## Main definitions

* `readUnit?` — the next unit of a script.
-/

namespace NameTables.Script

/-- Pieces in front of a word. -/
abbrev Pieces := Word → Word

/-- Characters as pieces. -/
def piecesOf (quoted : Bool) (s : Text) : Pieces := fun rest =>
  s.foldr (fun c rest => .char c quoted rest) rest

/-- A backslash and the character behind it, between quotes or in a text: it keeps some characters
from having a meaning and stands for itself before any other. -/
def afterBackslash (meaningful : Text) (c : Char) : Pieces :=
  if c ∈ meaningful then Word.char c true else piecesOf true ['\\', c]

/-- Pass a text that comes next. -/
def Reader.pass (s : Text) : Reader Unit := modify fun input =>
  let ends := s.count '\n'
  if ends = 0 then { input with rest := input.rest.drop s.length }
  else
    { input with
      rest := input.rest.drop s.length
      line := input.line + ends + input.removed
      removed := 0 }

/-- What comes before a quote, and the quote. -/
def readUpTo (quote : Char) : Reader Text := do
  let s := (← Reader.rest).takeWhile (· ≠ quote)
  Reader.pass s
  if ← Reader.accept [quote] then return s
  else Reader.fault "Syntax error: Unterminated quoted string".toList

/-- The text of a command between backquotes: a backslash protects a backquote, a backslash, a
dollar sign and, between double quotes, a double quote. -/
def unescapeBackquotes (quoted : Bool) : Text → Text
  | '\\' :: '\n' :: s => unescapeBackquotes quoted s
  | '\\' :: c :: s =>
    if c = '\\' || c = '\x60' || c = '$' || (quoted && c = '\x22') then
      c :: unescapeBackquotes quoted s
    else '\\' :: c :: unescapeBackquotes quoted s
  | c :: s => c :: unescapeBackquotes quoted s
  | [] => []

/-- What stands before the closing backquote. -/
def untilBackquote : Text → Text
  | '\\' :: c :: s => '\\' :: c :: untilBackquote s
  | '\x60' :: _ => []
  | c :: s => c :: untilBackquote s
  | [] => []

/-- What is made of a variable's value, as it is written behind the variable's name, and whether an
operand follows. -/
def readEdit : Reader (Edit × Bool) := do
  let take := fun (n : Nat) (edit : Edit) (operand : Bool) => do
    Reader.skip n
    return (edit, operand)
  match ← Reader.rest with
  | '}' :: _ => take 1 .plain false
  | ':' :: '-' :: _ => take 2 (.default true) true
  | '-' :: _ => take 1 (.default false) true
  | ':' :: '=' :: _ => take 2 (.assign true) true
  | '=' :: _ => take 1 (.assign false) true
  | ':' :: '+' :: _ => take 2 (.instead true) true
  | '+' :: _ => take 1 (.instead false) true
  | ':' :: '?' :: _ => take 2 (.demand true) true
  | '?' :: _ => take 1 (.demand false) true
  | '#' :: '#' :: _ => take 2 (.dropLead true) true
  | '#' :: _ => take 1 (.dropLead false) true
  | '%' :: '%' :: _ => take 2 (.dropTail true) true
  | '%' :: _ => take 1 (.dropTail false) true
  | ':' :: _ => take 2 .malformed true
  | _ => take 1 .malformed true

/-- Is the operand of the edit a pattern? -/
def Edit.takesPattern : Edit → Bool
  | .dropLead _ | .dropTail _ => true
  | _ => false

/-- A name or a number. -/
def readNameOrNumber : Reader Text := do
  match ← Reader.peek with
  | none => return []
  | some c =>
    if beginsName c then Reader.many inName
    else if c.isDigit then Reader.many Char.isDigit
    else return []

/-- The length of a variable's value, after the brace and the number sign. -/
def readLength : Reader (Text × Edit × Bool) := do
  let name ← readNameOrNumber
  if ← Reader.accept ['}'] then return (name, .length, false)
  else return (name, .malformed, true)

/-- The name of a variable after the brace, its edit, and whether an operand follows. -/
def readParameter : Reader (Text × Edit × Bool) := do
  let edited := fun (name : Text) => do
    let (edit, operand) ← readEdit
    return (name, edit, operand)
  match ← Reader.rest with
  | '#' :: c :: d :: _ =>
    Reader.skip 1
    if inName c then readLength
    else if c ≠ '}' && d = '}' && isSpecialName c then
      Reader.skip 2
      return ([c], .length, false)
    else edited ['#']
  | c :: _ =>
    if beginsName c || c.isDigit then edited (← readNameOrNumber)
    else if isSpecialName c then
      Reader.skip 1
      edited [c]
    else return ([], .malformed, true)
  | [] => return ([], .malformed, true)

/-- A simple command, which has at least one part, or the token that came instead of one. -/
def simpleBefore (t : Token) (line : Nat) (assignments : Assignments) (words : Words)
    (redirections : Redirections) : Reader Command := do
  match assignments, words, redirections with
  | .nil, .nil, .nil => Reader.unexpected t none
  | assignments, words, redirections =>
    Reader.putBack t
    return .simple line assignments words redirections

/-- The name of the function whose definition begins with these words, if they are one word. -/
def definedName? : Assignments → Words → Redirections → Option (Option Text)
  | .nil, .cons w .nil, .nil => some w.bare?
  | _, _, _ => none

/-- The names that no function can have: they are commands that decide about the shell itself. -/
def specialNames : List Text :=
  [".".toList, ":".toList, "break".toList, "continue".toList, "eval".toList, "exec".toList,
    "exit".toList, "export".toList, "local".toList, "readonly".toList, "return".toList,
    "set".toList, "shift".toList, "times".toList, "trap".toList, "unset".toList]

mutual

/-- The pieces of a word up to its end. -/
def readPieces : (fuel : Nat) → Reader Pieces
  | 0 => Reader.tooDeep
  | fuel + 1 => do
    match ← Reader.peek with
    | none => return id
    | some c =>
      if endsWord c then return id
      else
        let first ← readPiece fuel
        return first ∘ (← readPieces fuel)

/-- One piece outside double quotes. -/
def readPiece : (fuel : Nat) → Reader Pieces
  | 0 => Reader.tooDeep
  | fuel + 1 => do
    match ← Reader.next with
    | none => return id
    | some '\\' =>
      match ← Reader.next with
      | none => return .char '\\' true
      | some '\n' => return id
      | some c => return .char c true
    | some '\'' =>
      let s ← readUpTo '\''
      return .quotes ∘ piecesOf true s
    | some '\x22' =>
      let inside ← readQuoted fuel
      -- all arguments in quotes may be no word at all
      return if (inside .nil).isAllArguments then inside else .quotes ∘ inside
    | some '$' => readDollar fuel false
    | some '\x60' => readBackquoted fuel false
    | some c => return .char c false

/-- The pieces between double quotes, and the closing one. -/
def readQuoted : (fuel : Nat) → Reader Pieces
  | 0 => Reader.tooDeep
  | fuel + 1 => do
    match ← Reader.next with
    | none => Reader.fault "Syntax error: Unterminated quoted string".toList
    | some '\x22' => return id
    | some '$' =>
      let first ← readDollar fuel true
      return first ∘ (← readQuoted fuel)
    | some '\x60' =>
      let first ← readBackquoted fuel true
      return first ∘ (← readQuoted fuel)
    | some '\\' =>
      match ← Reader.next with
      | none => Reader.fault "Syntax error: Unterminated quoted string".toList
      | some '\n' => readQuoted fuel
      | some c => return afterBackslash ['\\', '\x22', '$', '\x60'] c ∘ (← readQuoted fuel)
    | some c => return .char c true ∘ (← readQuoted fuel)

/-- The piece that a dollar sign has begun. -/
def readDollar : (fuel : Nat) → (quoted : Bool) → Reader Pieces
  | 0, _ => Reader.tooDeep
  | fuel + 1, quoted => do
    Reader.joins fuel
    match ← Reader.rest with
    | '(' :: '(' :: _ =>
      Reader.skip 2
      let e ← readArithmetic fuel 0
      return .number (e .nil) quoted
    | '(' :: _ =>
      Reader.skip 1
      let c ← readList fuel false true
      match ← readToken fuel .other false with
      | .closing => return .output c quoted
      | t => Reader.unexpected t (some Token.closing.name)
    | '{' :: _ =>
      Reader.skip 1
      let (name, edit, operand) ← readParameter
      if operand then
        let operand ← readBraced fuel (quoted && !edit.takesPattern) quoted
        return .value name edit ((operand .nil).withHomes false) quoted
      else return .value name edit .nil quoted
    | c :: _ =>
      if beginsName c then return .value (← Reader.many inName) .plain .nil quoted
      else if isSpecialName c then
        Reader.skip 1
        return .value [c] .plain .nil quoted
      else return .char '$' true
    | [] => return .char '$' true

/-- The pieces of a text that stands in the script, up to a line with nothing but `delimiter`, and
that line; with `indented`, tabs in front of lines do not count, and with `begins`, a line begins
here. -/
def readHereText : (fuel : Nat) → (indented : Bool) → (delimiter : Text) → (begins : Bool) →
    Reader Pieces
  | 0, _, _, _ => Reader.tooDeep
  | fuel + 1, indented, delimiter, begins => do
    if begins && indented then
      let _ ← Reader.many (· = '\t')
    if begins && (← Reader.rest).takeWhile (· ≠ '\n') = delimiter then
      Reader.pass delimiter
      let _ ← Reader.next
      return id
    match ← Reader.next with
    | none => return id
    | some '$' =>
      let first ← readDollar fuel true
      return first ∘ (← readHereText fuel indented delimiter false)
    | some '\x60' =>
      let first ← readBackquoted fuel true
      return first ∘ (← readHereText fuel indented delimiter false)
    | some '\\' =>
      match ← Reader.next with
      | none => return .char '\\' true
      | some '\n' => readHereText fuel indented delimiter false
      | some c =>
        return afterBackslash ['\\', '$', '\x60'] c ∘
          (← readHereText fuel indented delimiter false)
    | some c => return .char c true ∘ (← readHereText fuel indented delimiter (c = '\n'))

/-- The text that a redirection takes from the script, after its sign.  It begins on the next line, so
the rest of this line stays in front of what is left. -/
def readHere : (fuel : Nat) → Reader Word
  | 0 => Reader.tooDeep
  | fuel + 1 => do
    let indented ← Reader.accept ['-']
    match ← readToken fuel .other false with
    | .word w =>
      let (delimiter, quoted) := w.spelling
      let input ← get
      let line := input.rest.takeWhile (· ≠ '\n')
      let below := input.rest.drop (line.length + 1)
      if input.rest.length = line.length then return .nil
      else if quoted then
        let (body, rest, lines) := splitHere indented delimiter below
        set { input with rest := line ++ '\n' :: rest, removed := input.removed + lines }
        return piecesOf true body .nil
      else
        let start := input.line + input.removed + 1
        set { input with rest := below, line := start, removed := 0 }
        let body ← readHereText fuel indented delimiter true
        let after ← get
        set { input with
          rest := line ++ '\n' :: after.rest
          removed := input.removed + (after.line - start) }
        return body .nil
    | t => Reader.unexpected t none

/-- The pieces up to the closing brace, and that brace.  With `within`, the brace stands between
double quotes, and with `quoted` these also hold for the pieces. -/
def readBraced : (fuel : Nat) → (quoted within : Bool) → Reader Pieces
  | 0, _, _ => Reader.tooDeep
  | fuel + 1, quoted, within => do
    match ← Reader.peek with
    | none =>
      if within then Reader.fault "Syntax error: Unterminated quoted string".toList
      else Reader.fault "Syntax error: Missing '\x7d'".toList
    | some '}' => Reader.skip 1; return id
    | some c =>
      if !quoted || c = '$' || c = '\x60' then
        let first ← if quoted then (do Reader.skip 1; readMeaning fuel c) else readPiece fuel
        return first ∘ (← readBraced fuel quoted within)
      else
        let _ ← Reader.next
        if c = '\x22' then return .quotes ∘ (← readBraced fuel quoted within)
        else if c = '\\' then
          match ← Reader.next with
          | none => return .char '\\' true
          | some '\n' => readBraced fuel quoted within
          | some d =>
            return afterBackslash ['\\', '\x22', '$', '\x60', '}'] d ∘
              (← readBraced fuel quoted within)
        else return .char c true ∘ (← readBraced fuel quoted within)

/-- The piece between double quotes that a dollar sign or a backquote has begun. -/
def readMeaning : (fuel : Nat) → (c : Char) → Reader Pieces
  | 0, _ => Reader.tooDeep
  | fuel + 1, c => if c = '$' then readDollar fuel true else readBackquoted fuel true

/-- The pieces of an arithmetic expression up to the two closing brackets, and these. -/
def readArithmetic : (fuel : Nat) → (depth : Nat) → Reader Pieces
  | 0, _ => Reader.tooDeep
  | fuel + 1, depth => do
    match ← Reader.next with
    | none => Reader.fault "Syntax error: Missing '))'".toList
    | some ')' =>
      match depth with
      | 0 =>
        if ← Reader.accept [')'] then return id
        else return .char ')' true ∘ (← readArithmetic fuel 0)
      | depth + 1 => return .char ')' true ∘ (← readArithmetic fuel depth)
    | some '(' => return .char '(' true ∘ (← readArithmetic fuel (depth + 1))
    | some '$' =>
      let first ← readDollar fuel true
      return first ∘ (← readArithmetic fuel depth)
    | some '\x60' =>
      let first ← readBackquoted fuel true
      return first ∘ (← readArithmetic fuel depth)
    | some c => return .char c true ∘ (← readArithmetic fuel depth)

/-- The command that a backquote has begun, and the closing one.  What follows the command between
the backquotes is not looked at. -/
def readBackquoted : (fuel : Nat) → (quoted : Bool) → Reader Pieces
  | 0, _ => Reader.tooDeep
  | fuel + 1, quoted => do
    let inside := untilBackquote (← Reader.rest)
    let input ← get
    Reader.pass inside
    if ← Reader.accept ['\x60'] then
      let text := Input.ofText input.line input.aliases (unescapeBackquotes quoted inside)
      match StateT.run (readList fuel false true) text with
      | .ok (c, _) => return .output c quoted
      | .error fault => throw fault
    else Reader.fault "Syntax error: EOF in backquote substitution".toList

/-- The next token at a spot; with `newlines`, ends of lines are passed. -/
def readToken : (fuel : Nat) → (spot : Spot) → (newlines : Bool) → Reader Token
  | 0, _, _ => Reader.tooDeep
  | fuel + 1, spot, newlines => do
    let input ← get
    let (t, goesOn) ←
      match input.back with
      | some t =>
        set { input with back := none }
        pure (t, false)
      | none => readNewToken fuel
    match t, newlines with
    | .newline, true => readToken fuel spot newlines
    | t, _ =>
      let t := if spot = .command || spot = .pattern then t.asKeyword else t
      if spot = .command || spot = .behindAssignments || goesOn then
        if ← Reader.takeAlias t then readToken fuel spot newlines else return t
      else return t

/-- The next token of the text, and whether an alias goes on with it. -/
def readNewToken : (fuel : Nat) → Reader (Token × Bool)
  | 0 => Reader.tooDeep
  | fuel + 1 => do
    Reader.blanks (fuel + 1)
    let goesOn ← Reader.leaveAliases
    let s ← Reader.rest
    match s with
    | [] => return (.ended, goesOn)
    | '\n' :: rest =>
      Reader.passLine rest
      return (.newline, goesOn)
    | s =>
      match redirection? s, sign? s with
      | some (descriptor, r, n), _ =>
        Reader.skip n
        return (.redirection descriptor r, goesOn)
      | none, some (t, n) =>
        Reader.skip n
        return (t, goesOn)
      | none, none => return (.word (((← readPieces fuel) .nil).withHome false), goesOn)

/-- A list of commands up to what ends it: the end of a line if it is a unit, else a token that
cannot continue it.  It may be empty if that is said. -/
def readList : (fuel : Nat) → (isUnit mayBeEmpty : Bool) → Reader Command
  | 0, _, _ => Reader.tooDeep
  | fuel + 1, isUnit, mayBeEmpty => do
    match ← readToken fuel .command (!isUnit) with
    | .newline => return .skip
    | .ended =>
      Reader.putBack .ended
      return .skip
    | t =>
      Reader.putBack t
      if mayBeEmpty && t.endsList then return .skip
      else
        let first ← readChain fuel
        match ← readToken fuel .other false with
        | .ended =>
          Reader.putBack .ended
          return first
        | .newline =>
          Reader.putBack .newline
          return .seq first (← readList fuel isUnit (!isUnit))
        | .semicolon => return .seq first (← readList fuel isUnit (!isUnit))
        | .background => return .seq (.background first) (← readList fuel isUnit (!isUnit))
        | t =>
          if isUnit then Reader.unexpected t none
          else
            Reader.putBack t
            return first

/-- Commands that hang together by success or failure. -/
def readChain : (fuel : Nat) → Reader Command
  | 0 => Reader.tooDeep
  | fuel + 1 => do readLinks fuel (← readPipe fuel false)

/-- What hangs on a command by success or failure. -/
def readLinks : (fuel : Nat) → Command → Reader Command
  | 0, _ => Reader.tooDeep
  | fuel + 1, first => do
    match ← readToken fuel .other false with
    | .both => readLinks fuel (.both first (← readPipe fuel true))
    | .either => readLinks fuel (.either first (← readPipe fuel true))
    | t =>
      Reader.putBack t
      return first

/-- Commands that are joined by pipes, behind ends of lines if that is said. -/
def readPipe : (fuel : Nat) → (newlines : Bool) → Reader Command
  | 0, _ => Reader.tooDeep
  | fuel + 1, newlines => do
    let t ← readToken fuel .command newlines
    if t.isKeyword "!" then
      let negated ← readToken fuel .command false
      Reader.putBack negated
      return .negate (← readPipeline fuel)
    else
      Reader.putBack t
      readPipeline fuel

/-- Commands that are joined by pipes. -/
def readPipeline : (fuel : Nat) → Reader Command
  | 0 => Reader.tooDeep
  | fuel + 1 => do
    let first ← readCommand fuel
    match ← readToken fuel .other false with
    | .pipe =>
      Reader.putBack (← readToken fuel .command true)
      return .pipe first (← readPipeline fuel)
    | t =>
      Reader.putBack t
      return first

/-- One command. -/
def readCommand : (fuel : Nat) → Reader Command
  | 0 => Reader.tooDeep
  | fuel + 1 => do
    let t ← readToken fuel .other false
    let line := (← get).line
    match t with
    | .opening =>
      let body ← readList fuel false false
      readClosing fuel line (.apart body) .closing
    | .word w =>
      Reader.putBack (.word w)
      readSimple fuel line .nil .nil .nil
    | .redirection descriptor r =>
      Reader.putBack (.redirection descriptor r)
      readSimple fuel line .nil .nil .nil
    | .keyword k =>
      if k = "\x7b".toList then
        let body ← readList fuel false false
        readClosing fuel line body (.keyword "\x7d".toList)
      else if k = "if".toList then
        let c ← readBranches fuel
        readClosing fuel line c (.keyword "fi".toList)
      else if k = "while".toList || k = "until".toList then
        let condition ← readList fuel false false
        readKeyword fuel "do".toList
        let body ← readList fuel false false
        readClosing fuel line (.loop (k = "until".toList) condition body)
          (.keyword "done".toList)
      else if k = "for".toList then readFor fuel line
      else if k = "case".toList then readCase fuel line
      else Reader.unexpected (.keyword k) none
    | t => Reader.unexpected t none

/-- A word with a meaning of its own that has to come next. -/
def readKeyword : (fuel : Nat) → (k : Text) → Reader Unit
  | 0, _ => Reader.tooDeep
  | fuel + 1, k => do
    match ← readToken fuel .command false with
    | .keyword found =>
      if found = k then return
      else Reader.unexpected (.keyword found) (some (Token.keyword k).name)
    | t => Reader.unexpected t (some (Token.keyword k).name)

/-- The end of a command and the redirections behind it. -/
def readClosing : (fuel : Nat) → (line : Nat) → Command → (last : Token) → Reader Command
  | 0, _, _, _ => Reader.tooDeep
  | fuel + 1, line, c, last => do
    match last with
    | .keyword k => readKeyword fuel k
    | last =>
      match ← readToken fuel .other false with
      | .closing => pure ()
      | t => Reader.unexpected t (some last.name)
    return .redirected line c (← readRedirections fuel)

/-- A loop over words, behind its first word. -/
def readFor : (fuel : Nat) → (line : Nat) → Reader Command
  | 0, _ => Reader.tooDeep
  | fuel + 1, line => do
    let name :=
      match ← readToken fuel .other false with
      | .word w => w.bare?.filter isName
      | _ => none
    match name with
    | none => Reader.fault "Syntax error: Bad for loop variable".toList
    | some name =>
      let t ← readToken fuel .command true
      let listed := t.isKeyword "in"
      let words ←
        if listed then readWords fuel
        else
          match t with
          | .semicolon => pure .nil
          | t =>
            Reader.putBack t
            pure .nil
      match ← readToken fuel .command true with
      | .keyword k =>
        if k = "do".toList then
          let body ← readList fuel false false
          readClosing fuel line (.each name (!listed) words body) (.keyword "done".toList)
        else Reader.unexpected (.keyword k) (some (Token.keyword "do".toList).name)
      | t => Reader.unexpected t (some (Token.keyword "do".toList).name)

/-- A choice, behind its first word. -/
def readCase : (fuel : Nat) → (line : Nat) → Reader Command
  | 0, _ => Reader.tooDeep
  | fuel + 1, line => do
    match ← readToken fuel .other false with
    | .word w =>
      let t ← readToken fuel .command true
      if t.isKeyword "in" then
        let arms ← readArms fuel
        return .redirected line (.choose w arms) (← readRedirections fuel)
      else Reader.unexpected t (some (Token.keyword "in".toList).name)
    | t => Reader.unexpected t (some "word".toList)

/-- A condition with its branches, up to the word that ends them. -/
def readBranches : (fuel : Nat) → Reader Command
  | 0 => Reader.tooDeep
  | fuel + 1 => do
    let condition ← readList fuel false false
    readKeyword fuel "then".toList
    let yes ← readList fuel false false
    let t ← readToken fuel .command false
    if t.isKeyword "elif" then return .branch condition yes (← readBranches fuel)
    else if t.isKeyword "else" then
      return .branch condition yes (← readList fuel false false)
    else
      Reader.putBack t
      return .branch condition yes .skip

/-- Words up to the end of a line or a semicolon. -/
def readWords : (fuel : Nat) → Reader Words
  | 0 => Reader.tooDeep
  | fuel + 1 => do
    match ← readToken fuel .other false with
    | .word w => return .cons w (← readWords fuel)
    | .newline => return .nil
    | .semicolon => return .nil
    | t => Reader.unexpected t none

/-- The arms of a choice, up to the word that ends it. -/
def readArms : (fuel : Nat) → Reader Arms
  | 0 => Reader.tooDeep
  | fuel + 1 => do
    let t ← readToken fuel .pattern true
    if t.isKeyword "esac" then return .nil
    else
      let first ←
        match t with
        | .opening => readToken fuel .other false
        | t => pure t
      let patterns ← readPatterns fuel first
      let body ← readList fuel false true
      let t ← readToken fuel .pattern true
      match t with
      | .armEnd => return .cons patterns body (← readArms fuel)
      | t =>
        if t.isKeyword "esac" then return .cons patterns body .nil
        else Reader.unexpected t (some Token.armEnd.name)

/-- The patterns of an arm, of which the first token is given, and the closing bracket. -/
def readPatterns : (fuel : Nat) → (first : Token) → Reader Words
  | 0, _ => Reader.tooDeep
  | fuel + 1, first => do
    let w : Word :=
      match first with
      | .word w => w
      | .keyword k => piecesOf false k .nil
      | _ => .nil
    match ← readToken fuel .other false with
    | .pipe => return .cons w (← readPatterns fuel (← readToken fuel .other false))
    | .closing => return .cons w .nil
    | t => Reader.unexpected t (some Token.closing.name)

/-- What a redirection leads to. -/
def readTarget : (fuel : Nat) → Redirection → Reader Word
  | 0, _ => Reader.tooDeep
  | fuel + 1, r => do
    match r with
    | .here => readHere fuel
    | _ =>
      match ← readToken fuel .other false with
      | .word w => return w
      | t => Reader.unexpected t none

/-- The redirections that come next. -/
def readRedirections : (fuel : Nat) → Reader Redirections
  | 0 => Reader.tooDeep
  | fuel + 1 => do
    match ← readToken fuel .command false with
    | .redirection descriptor r =>
      let w ← readTarget fuel r
      return .cons descriptor r w (← readRedirections fuel)
    | t =>
      Reader.putBack t
      return .nil

/-- The rest of a simple command or of the definition of a function, after the parts that have been
read. -/
def readSimple : (fuel : Nat) → (line : Nat) → Assignments → Words → Redirections →
    Reader Command
  | 0, _, _, _, _ => Reader.tooDeep
  | fuel + 1, line, assignments, words, redirections => do
    let spot :=
      match words with
      | .nil => .behindAssignments
      | .cons .. => .other
    match ← readToken fuel spot false with
    | .redirection descriptor r =>
      let w ← readTarget fuel r
      readSimple fuel line assignments words (redirections.add descriptor r w)
    | .word w =>
      match words, w.assigned? with
      | .nil, some (name, value) =>
        readSimple fuel line (assignments.add name (value.withHomes true)) words redirections
      | _, some _ => readSimple fuel line assignments (words.add w.withValueHomes) redirections
      | _, none => readSimple fuel line assignments (words.add w) redirections
    | .opening =>
      match definedName? assignments words redirections with
      | none => simpleBefore .opening line assignments words redirections
      | some name =>
        match ← readToken fuel .other false with
        | .closing =>
          match name.filter fun name => isName name && name ∉ specialNames with
          | none => Reader.fault "Syntax error: Bad function name".toList
          | some name =>
            Reader.putBack (← readToken fuel .command true)
            return .define name (← readCommand fuel)
        | t => Reader.unexpected t (some Token.closing.name)
    | t => simpleBefore t line assignments words redirections

end

/-- The next unit of a script, and the text behind it; there is none at the end of the script. -/
def readUnit? (input : Input) : Except SyntaxFault (Option Command × Input) :=
  let fuel := 8 * input.rest.length + 64
  let unit : Reader (Option Command) := do
    match ← readToken fuel .command false with
    | .ended => return none
    | t =>
      Reader.putBack t
      return some (← readList fuel true false)
  StateT.run unit { input with back := none }

end NameTables.Script
