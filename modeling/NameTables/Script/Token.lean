import NameTables.Script.Program

/-!
# Tokens of scripts

A script is a sequence of words and signs.  Some words have a meaning of their own where a command
may begin.  What is wrong with a script is told by the token that does not fit.

## Main definitions

* `Token` — words, signs and words with a meaning of their own.
* `SyntaxFault` — what is wrong with a script, and where.
* `Input`, `Reader` — the text that is left, with its line, and what reads it.
-/

namespace NameTables.Script

/-- A token. -/
inductive Token
  /-- The end of the script. -/
  | ended
  /-- The end of a line. -/
  | newline
  /-- A semicolon. -/
  | semicolon
  /-- An ampersand. -/
  | background
  /-- Two ampersands. -/
  | both
  /-- Two bars. -/
  | either
  /-- A bar. -/
  | pipe
  /-- An opening bracket. -/
  | opening
  /-- A closing bracket. -/
  | closing
  /-- Two semicolons, which end an arm of a choice. -/
  | armEnd
  /-- The sign of a redirection, with the descriptor that it is for. -/
  | redirection (descriptor : Nat) (r : Redirection)
  /-- A word with a meaning of its own. -/
  | keyword (k : Text)
  /-- Any other word. -/
  | word (w : Word)

namespace Token

/-- The words that have a meaning of their own where a command may begin. -/
def keywords : List Text :=
  ["!".toList, "case".toList, "do".toList, "done".toList, "elif".toList, "else".toList,
    "esac".toList, "fi".toList, "for".toList, "if".toList, "in".toList, "then".toList,
    "until".toList, "while".toList, "\x7b".toList, "\x7d".toList]

/-- A word taken for one with a meaning of its own, if it has one. -/
def asKeyword : Token → Token
  | .word w =>
    match w.bare? with
    | some s => if s ∈ keywords then .keyword s else .word w
    | none => .word w
  | t => t

/-- Is this the word with a meaning of its own? -/
def isKeyword (k : String) : Token → Bool
  | .keyword s => s == k.toList
  | _ => false

/-- A text in quotes. -/
def inQuotes (s : Text) : Text := '\x22' :: s ++ ['\x22']

/-- What a token is called in messages. -/
def name : Token → Text
  | .ended => "end of file".toList
  | .newline => "newline".toList
  | .semicolon => inQuotes [';']
  | .background => inQuotes ['&']
  | .both => inQuotes ['&', '&']
  | .either => inQuotes ['|', '|']
  | .pipe => inQuotes ['|']
  | .opening => inQuotes ['(']
  | .closing => inQuotes [')']
  | .armEnd => inQuotes [';', ';']
  | .redirection .. => "redirection".toList
  | .keyword k => inQuotes k
  | .word _ => "word".toList

/-- Does a list of commands end before the token? -/
def endsList : Token → Bool
  | .ended | .closing | .armEnd => true
  | .keyword k =>
    k ∈ ["do".toList, "done".toList, "elif".toList, "else".toList, "esac".toList, "fi".toList,
      "then".toList, "\x7d".toList]
  | _ => false

end Token

/-- Where a token stands. -/
inductive Spot
  /-- Where a command may begin: words may have a meaning of their own, or stand for texts. -/
  | command
  /-- Behind assignments: words may stand for texts. -/
  | behindAssignments
  /-- Where the patterns of an arm begin: words may have a meaning of their own. -/
  | pattern
  /-- Anywhere else. -/
  | other
  deriving DecidableEq, Repr

/-- What is wrong with a script. -/
structure SyntaxFault where
  /-- The line on which it shows. -/
  line : Nat
  /-- What it is. -/
  message : Text

/-- An alias whose text is being read. -/
structure OpenAlias where
  /-- The name. -/
  name : Text
  /-- How much is left of the input when all of its text has been read. -/
  left : Nat
  /-- Does the text end in a blank, so that the next word may be an alias as well? -/
  goesOn : Bool

/-- The text that is left to read. -/
structure Input where
  /-- The text. -/
  rest : Text
  /-- The line it begins on. -/
  line : Nat
  /-- The number of lines that were taken out of the text behind the line it begins on. -/
  removed : Nat
  /-- A token that was read and is to be read again. -/
  back : Option Token
  /-- The words that stand for texts. -/
  aliases : List (Text × Text)
  /-- Those whose texts are being read. -/
  openAliases : List OpenAlias

/-- The input at the beginning of a text, where some words stand for texts. -/
def Input.ofText (line : Nat) (aliases : List (Text × Text)) (s : Text) : Input :=
  ⟨s, line, 0, none, aliases, []⟩

/-- A reader of a part of a script. -/
abbrev Reader (α : Type) := StateT Input (Except SyntaxFault) α

namespace Reader

/-- Give up with a message. -/
def fault {α : Type} (message : Text) : Reader α := fun input => .error ⟨input.line, message⟩

/-- Give up on a token that does not fit, where perhaps another one is expected. -/
def unexpected {α : Type} (t : Token) (expected : Option Text) : Reader α :=
  fault <| "Syntax error: ".toList ++ t.name ++ " unexpected".toList ++
    match expected with
    | some name => " (expecting ".toList ++ name ++ ")".toList
    | none => []

/-- Give up because reading goes deeper than any script does. -/
def tooDeep {α : Type} : Reader α := fault "Syntax error: too deep".toList

/-- The text that is left. -/
def rest : Reader Text := return (← get).rest

/-- The next character, which is not read yet. -/
def peek : Reader (Option Char) := return (← get).rest.head?

/-- Pass the end of a line.  Lines that were taken out of the text come after it. -/
def passLine (rest : Text) : Reader Unit := modify fun input =>
  { input with rest, line := input.line + 1 + input.removed, removed := 0 }

/-- Read a character. -/
def next : Reader (Option Char) := do
  match (← get).rest with
  | [] => return none
  | '\n' :: rest => passLine rest; return some '\n'
  | c :: rest => modify fun input => { input with rest }; return some c

/-- Pass so many characters of a line. -/
def skip (n : Nat) : Reader Unit := modify fun input => { input with rest := input.rest.drop n }

/-- Read a text of one line if it comes next. -/
def accept (lead : Text) : Reader Bool := do
  match Text.dropLead? lead (← rest) with
  | some rest => modify fun input => { input with rest }; return true
  | none => return false

/-- Read the characters of a class without line ends that come next. -/
def many (p : Char → Bool) : Reader Text := do
  let s := (← rest).takeWhile p
  skip s.length
  return s

/-- Pass joined lines: backslashes at the ends of lines. -/
def joins : (fuel : Nat) → Reader Unit
  | 0 => return
  | fuel + 1 => do
    match (← get).rest with
    | '\\' :: '\n' :: rest => passLine rest; joins fuel
    | _ => return

/-- Pass blanks, joined lines and a comment. -/
def blanks : (fuel : Nat) → Reader Unit
  | 0 => return
  | fuel + 1 => do
    match (← get).rest with
    | ' ' :: _ => skip 1; blanks fuel
    | '\t' :: _ => skip 1; blanks fuel
    | '\\' :: '\n' :: rest => passLine rest; blanks fuel
    | '#' :: rest => skip ((rest.takeWhile (· ≠ '\n')).length + 1)
    | _ => return

/-- Leave the aliases of which the whole text has been read; whether one of them goes on. -/
def leaveAliases : Reader Bool := do
  let input ← get
  if input.openAliases.isEmpty then return false
  else
    let left := input.rest.length
    set { input with openAliases := input.openAliases.filter fun a => a.left < left }
    return input.openAliases.any fun a => left ≤ a.left && a.goesOn

/-- Take the text of a word for the word itself, if it is an alias whose text is not being read. -/
def takeAlias (t : Token) : Reader Bool := do
  let input ← get
  let name :=
    match t with
    | .word w => if input.aliases.isEmpty then none else w.bare?
    | _ => none
  match name.filter fun name => input.openAliases.all (·.name != name) with
  | none => return false
  | some name =>
    match input.aliases.lookup name with
    | none => return false
    | some text =>
      let goesOn := text.getLast? = some ' ' || text.getLast? = some '\t'
      set { input with
        rest := text ++ input.rest
        openAliases := ⟨name, input.rest.length, goesOn⟩ :: input.openAliases }
      return true

/-- Let a token be read again. -/
def putBack (t : Token) : Reader Unit := modify fun input => { input with back := some t }

end Reader

/-- Does the character end a word? -/
def endsWord (c : Char) : Bool :=
  c = ' ' || c = '\t' || c = '\n' || c = ';' || c = '&' || c = '|' || c = '<' || c = '>'
    || c = '(' || c = ')'

/-- The sign of a redirection that comes next, without a descriptor, and its length.  The signs
for output are told apart from those for input. -/
def redirectionSign? : Text → Option (Redirection × Nat)
  | '>' :: '>' :: _ => some (.append, 2)
  | '>' :: '&' :: _ => some (.duplicate, 2)
  | '>' :: '|' :: _ => some (.output true, 2)
  | '>' :: _ => some (.output false, 1)
  | '<' :: '&' :: _ => some (.duplicate, 2)
  | '<' :: '>' :: _ => some (.both, 2)
  | '<' :: '<' :: _ => some (.here, 2)
  | '<' :: _ => some (.input, 1)
  | _ => none

/-- The redirection that comes next, with its descriptor, which may stand in front as a digit, and
its length. -/
def redirection? (s : Text) : Option (Nat × Redirection × Nat) :=
  let usual := fun s : Text => if s.head? = some '>' then 1 else 0
  match s with
  | c :: rest =>
    if c.isDigit then
      (redirectionSign? rest).map fun (r, n) => (c.toNat - '0'.toNat, r, n + 1)
    else (redirectionSign? s).map fun (r, n) => (usual s, r, n)
  | [] => none

/-- The sign that comes next, and its length. -/
def sign? : Text → Option (Token × Nat)
  | '&' :: '&' :: _ => some (.both, 2)
  | '&' :: _ => some (.background, 1)
  | '|' :: '|' :: _ => some (.either, 2)
  | '|' :: _ => some (.pipe, 1)
  | ';' :: ';' :: _ => some (.armEnd, 2)
  | ';' :: _ => some (.semicolon, 1)
  | '(' :: _ => some (.opening, 1)
  | ')' :: _ => some (.closing, 1)
  | _ => none

/-- A text that ends at a line with nothing but `delimiter`, what is left behind that line, and how
many lines these are; with `indented`, tabs in front of its lines do not count. -/
def splitHere (indented : Bool) (delimiter s : Text) : Text × Text × Nat :=
  let dedent := fun line : Text => if indented then line.dropWhile (· = '\t') else line
  let lines := splitAt (· = '\n') s
  let body := (lines.map dedent).takeWhile (· ≠ delimiter)
  let ended := body.length < lines.length
  -- without its last line the text may lack a line end
  let text := if ended then body.flatMap (· ++ ['\n']) else Text.join ['\n'] body
  (text, Text.join ['\n'] (lines.drop (body.length + 1)), body.length + if ended then 1 else 0)

/-- The names of one character: counts, states and all arguments. -/
def isSpecialName (c : Char) : Bool :=
  c = '@' || c = '*' || c = '#' || c = '?' || c = '$' || c = '!' || c = '-' || c.isDigit

end NameTables.Script
