import NameTables.Text.Utf8

/-!
# Scripts as stand-ins

A tool can be stood in for by a short shell script, so that a run can be tried, and reasoned
about, where no compiler is.  This module has the form of such scripts.  A script knows octets
only: each is a character whose code is the octet's number.

Words, lists and commands contain each other, so each kind of list is a type of its own, and
everything about scripts is a structural recursion.

## Main definitions

* `Word`, `Edit` — a word before it is expanded.
* `Command` — a command.
* `isName`, `Word.assigned?` — names and assignments.
* `octets`, `ofOctets` — the octets of a text as characters, and back.
-/

namespace NameTables.Script

/-- The octets of a byte string as characters. -/
def ofBytes (bs : Bytes) : Text := bs.map fun b => Char.ofNat b.toNat

/-- The octets that characters stand for. -/
def toBytes (s : Text) : Bytes := s.map fun c => UInt8.ofNat c.toNat

/-- The octets of a text as characters. -/
def octets (s : Text) : Text := ofBytes s.encode

/-- The text that octets make. -/
def ofOctets (s : Text) : Text := (toBytes s).decodeLossy

/-- What becomes of the value of a variable. -/
inductive Edit
  /-- Nothing. -/
  | plain
  /-- Its length is taken. -/
  | length
  /-- If there is none, and with `orEmpty` if it is empty, another value stands in for it. -/
  | default (orEmpty : Bool)
  /-- The same, and the variable gets that value. -/
  | assign (orEmpty : Bool)
  /-- If there is one, and with `orEmpty` one that is not empty, another value stands in for it. -/
  | instead (orEmpty : Bool)
  /-- If there is none, and with `orEmpty` if it is empty, the shell ends with a message. -/
  | demand (orEmpty : Bool)
  /-- The shortest or longest beginning of a pattern is cut off. -/
  | dropLead (longest : Bool)
  /-- The shortest or longest end of a pattern is cut off. -/
  | dropTail (longest : Bool)
  /-- Nothing can become of it: the edit is malformed. -/
  | malformed
  deriving DecidableEq, Repr

/-- What is done to a file descriptor. -/
inductive Redirection
  /-- It reads a file. -/
  | input
  /-- It reads a text of the script itself. -/
  | here
  /-- It reads and writes a file, which is made if it is missing. -/
  | both
  /-- It writes a file that is emptied first; with `force`, whatever the shell's options say. -/
  | output (force : Bool)
  /-- It writes at the end of a file. -/
  | append
  /-- It becomes the same as another descriptor. -/
  | duplicate
  deriving DecidableEq, Repr

mutual

/-- A word before it is expanded, as its pieces in order. -/
inductive Word
  /-- No more pieces. -/
  | nil
  /-- A character, quoted or not. -/
  | char (c : Char) (quoted : Bool) (rest : Word)
  /-- A pair of quotes, which makes a word even if nothing is in it. -/
  | quotes (rest : Word)
  /-- A tilde with the name of a user, which stands for that user's directory; with `assigned`, it
  does so only where a variable gets its value. -/
  | home (user : Text) (assigned : Bool) (rest : Word)
  /-- The value of a variable. -/
  | value (name : Text) (edit : Edit) (operand : Word) (quoted : Bool) (rest : Word)
  /-- The output of a command. -/
  | output (c : Command) (quoted : Bool) (rest : Word)
  /-- The value of an arithmetic expression. -/
  | number (e : Word) (quoted : Bool) (rest : Word)

/-- Words in order. -/
inductive Words
  /-- No more words. -/
  | nil
  /-- A word and those after it. -/
  | cons (w : Word) (rest : Words)

/-- Variables with their new values. -/
inductive Assignments
  /-- No more variables. -/
  | nil
  /-- A variable and those after it. -/
  | cons (name : Text) (w : Word) (rest : Assignments)

/-- Redirections in order. -/
inductive Redirections
  /-- No more redirections. -/
  | nil
  /-- A redirection of a descriptor and those after it. -/
  | cons (descriptor : Nat) (r : Redirection) (w : Word) (rest : Redirections)

/-- The arms of a choice. -/
inductive Arms
  /-- No more arms. -/
  | nil
  /-- An arm with its patterns and those after it. -/
  | cons (patterns : Words) (body : Command) (rest : Arms)

/-- A command. -/
inductive Command
  /-- Nothing. -/
  | skip
  /-- A program, a built-in command or a function with its arguments, or assignments alone; the
  line it stands on is told in messages. -/
  | simple (line : Nat) (assignments : Assignments) (words : Words) (redirections : Redirections)
  /-- One command after another. -/
  | seq (a b : Command)
  /-- The second command if the first succeeds. -/
  | both (a b : Command)
  /-- The second command if the first fails. -/
  | either (a b : Command)
  /-- A command whose success is failure. -/
  | negate (a : Command)
  /-- Two commands, the first one's output being the second one's input. -/
  | pipe (a b : Command)
  /-- A choice by the success of a command. -/
  | branch (condition yes no : Command)
  /-- A command again and again while a condition succeeds, or until it does. -/
  | loop (ending : Bool) (condition body : Command)
  /-- A command for each of some words, or for each argument. -/
  | each (name : Text) (args : Bool) (words : Words) (body : Command)
  /-- The first arm of which a pattern matches. -/
  | choose (w : Word) (arms : Arms)
  /-- A command with redirections. -/
  | redirected (line : Nat) (c : Command) (redirections : Redirections)
  /-- A command in a shell of its own. -/
  | apart (c : Command)
  /-- A command in a process of its own, which is not waited for. -/
  | background (c : Command)
  /-- The definition of a function. -/
  | define (name : Text) (body : Command)

end

namespace Words

/-- One more word. -/
def add (w : Word) : Words → Words
  | .nil => .cons w .nil
  | .cons v rest => .cons v (rest.add w)

end Words

namespace Assignments

/-- One more variable with its new value. -/
def add (name : Text) (w : Word) : Assignments → Assignments
  | .nil => .cons name w .nil
  | .cons n v rest => .cons n v (rest.add name w)

end Assignments

namespace Redirections

/-- One more redirection. -/
def add (descriptor : Nat) (r : Redirection) (w : Word) : Redirections → Redirections
  | .nil => .cons descriptor r w .nil
  | .cons d q v rest => .cons d q v (rest.add descriptor r w)

/-- Are there none? -/
def isEmpty : Redirections → Bool
  | .nil => true
  | .cons .. => false

end Redirections

namespace Word

/-- The characters of a word without expansions, and whether any of them is quoted. -/
def spelling : Word → Text × Bool
  | .char c quoted rest => (c :: rest.spelling.1, quoted || rest.spelling.2)
  | .quotes rest => (rest.spelling.1, true)
  | .home user _ rest => ('~' :: user ++ rest.spelling.1, rest.spelling.2)
  | .value name .plain .nil _ rest => ('$' :: name ++ rest.spelling.1, rest.spelling.2)
  | _ => ([], false)

/-- Does the word stand for all arguments as they are? -/
def isAllArguments : Word → Bool
  | .value ['@'] .plain .nil _ .nil => true
  | _ => false

/-- The characters of a word in which nothing is quoted or expanded. -/
def bare? : Word → Option Text
  | .nil => some []
  | .char c false rest => rest.bare?.map (c :: ·)
  | .home user _ rest => rest.bare?.map ('~' :: user ++ ·)
  | _ => none

/-- What stands behind a tilde, as the name of a user, which ends at a slash or a colon, and the
rest.  Nothing in the name is quoted. -/
def user? : Word → Option (Text × Word)
  | .nil => some ([], .nil)
  | .char c false rest =>
    if c = '/' || c = ':' then some ([], .char c false rest)
    else rest.user?.map fun (user, rest) => (c :: user, rest)
  | _ => none

/-- The word with a tilde at its beginning taken for a directory.  A name before a colon stands for
one in values only. -/
def withHome (assigned : Bool) : Word → Word
  | .char '~' false rest =>
    match rest.user? with
    | some (user, .char ':' false rest) => .home user true (.char ':' false rest)
    | some (user, rest) => .home user assigned rest
    | none => .char '~' false rest
  | w => w

/-- The word with the tildes behind colons taken for directories where it is a value. -/
def withInnerHomes : Word → Word
  | .nil => .nil
  | .char ':' false rest => .char ':' false (rest.withInnerHomes.withHome true)
  | .char c quoted rest => .char c quoted rest.withInnerHomes
  | .quotes rest => .quotes rest.withInnerHomes
  | .home user assigned rest => .home user assigned rest.withInnerHomes
  | .value name edit operand quoted rest => .value name edit operand quoted rest.withInnerHomes
  | .output c quoted rest => .output c quoted rest.withInnerHomes
  | .number e quoted rest => .number e quoted rest.withInnerHomes

/-- The word as a value or a part of one. -/
def withHomes (assigned : Bool) (w : Word) : Word := w.withInnerHomes.withHome assigned

/-- The word with what follows its equals sign taken for a value. -/
def withValueHomes : Word → Word
  | .char '=' false rest => .char '=' false (rest.withHomes true)
  | .char c quoted rest => .char c quoted rest.withValueHomes
  | w => w

end Word

/-- The commands of which each reads what the one before writes. -/
def Command.row : Command → List Command
  | .pipe a b => a :: b.row
  | c => [c]

/-- Is there nothing to carry out? -/
def Command.isSkip : Command → Bool
  | .skip => true
  | _ => false

/-! ### Names -/

/-- Can the character begin a name? -/
def beginsName (c : Char) : Bool := c.isAlpha || c = '_'

/-- Can the character stand in a name? -/
def inName (c : Char) : Bool := c.isAlphanum || c = '_'

/-- Is the text a name? -/
def isName (s : Text) : Bool := (s.head?.map beginsName).getD false && s.all inName

/-- A word that begins with a name and an equals sign, as the name and the word behind the sign. -/
def Word.assigned? : Word → Option (Text × Word)
  | .char c false rest =>
    if beginsName c then
      (behind rest).map fun (name, word) => (c :: name, word)
    else none
  | _ => none
where
  /-- The rest of the name, and the word behind the equals sign. -/
  behind : Word → Option (Text × Word)
    | .char c false rest =>
      if c = '=' then some ([], rest)
      else if inName c then (behind rest).map fun (name, word) => (c :: name, word)
      else none
    | _ => none

end NameTables.Script
