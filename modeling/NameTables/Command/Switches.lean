import NameTables.Text.Basic

/-!
# Switches on a command line

A command line is a list of words.  A word that begins with two hyphens names a switch in full, one
that begins with a single hyphen names switches by letters, and any other word is an operand.  The
value of a switch follows after an equals sign or as the next word; after letters it may follow at
once.  A value that is a word of its own does not begin with a hyphen, except for the lone hyphen.
After the word `--` every word is an operand.

## Main definitions

* `Switch`, `Kind` — a switch and what it takes.
* `Form` — what a command line can hold.
* `Given` — what it does hold.
* `Form.scan` — read a command line, up to the first operand if that names a task.
-/

namespace NameTables

/-- What a switch takes, and how often it can be given. -/
inductive Kind
  /-- It takes nothing and is given once at most. -/
  | mark
  /-- It takes nothing and may be given again and again. -/
  | count
  /-- It takes nothing, and nothing after it matters: it asks for help. -/
  | help
  /-- It takes nothing, and nothing after it matters: it asks for the version. -/
  | version
  /-- It takes a value, not empty if that is a path, and is given once at most. -/
  | value (path : Bool)
  /-- It takes a value, not empty if that is a path, and may be given again and again. -/
  | values (path : Bool)
  deriving DecidableEq, Repr

/-- Does a switch of this kind take a value? -/
def Kind.takesValue : Kind → Bool
  | .value _ | .values _ => true
  | _ => false

/-- May a value be empty? -/
def Kind.allowsEmpty : Kind → Bool
  | .value path | .values path => !path
  | _ => true

/-- May a switch of this kind be given again? -/
def Kind.mayRepeat : Kind → Bool
  | .count | .values _ => true
  | _ => false

/-- A switch. -/
structure Switch where
  /-- Its name, without the hyphens. -/
  name : Text
  /-- Its letter. -/
  letter : Option Char
  /-- What it takes. -/
  kind : Kind
  deriving DecidableEq, Repr

/-- Why a command line is not carried out. -/
inductive Stop
  /-- It is not understood. -/
  | misuse
  /-- It asks for help. -/
  | help
  /-- It asks for the version. -/
  | version
  deriving DecidableEq, Repr

/-- What a command line can hold. -/
structure Form where
  /-- The switches. -/
  switches : List Switch
  /-- The greatest number of operands, if there is one. -/
  operandLimit : Option Nat
  /-- Does the first operand name a task, to which all that follows belongs? -/
  namesTask : Bool

/-- What a command line holds. -/
structure Given where
  /-- The names of the switches given, with their values, in order. -/
  switches : List (Text × Text)
  /-- The operands, in order. -/
  operands : List Text
  deriving DecidableEq, Repr

namespace Given

/-- Nothing. -/
def empty : Given := ⟨[], []⟩

/-- Is the switch given? -/
def has (g : Given) (name : Text) : Bool := g.switches.any (·.1 == name)

/-- The values given to a switch. -/
def valuesOf (g : Given) (name : Text) : List Text :=
  (g.switches.filter (·.1 == name)).map Prod.snd

/-- The value given to a switch. -/
def value? (g : Given) (name : Text) : Option Text := (g.valuesOf name).head?

/-- One more switch with its value. -/
def addSwitch (g : Given) (s : Switch) (value : Text) : Except Stop Given :=
  if g.has s.name && !s.kind.mayRepeat then .error .misuse
  else if value.isEmpty && !s.kind.allowsEmpty then .error .misuse
  else .ok { g with switches := g.switches ++ [(s.name, value)] }

/-- One more operand. -/
def addOperand (g : Given) (limit : Option Nat) (word : Text) : Except Stop Given :=
  match limit with
  | some n =>
    if g.operands.length < n then .ok { g with operands := g.operands ++ [word] }
    else .error .misuse
  | none => .ok { g with operands := g.operands ++ [word] }

end Given

/-- A word of a command line by its spelling. -/
inductive Spelling
  /-- The word `--`. -/
  | divider
  /-- A switch by its name, with what follows an equals sign. -/
  | long (name : Text) (value : Option Text)
  /-- Switches by their letters. -/
  | short (letters : Text)
  /-- Any other word. -/
  | plain (word : Text)
  deriving DecidableEq, Repr

/-- A name and what follows the first equals sign. -/
def splitAtEquals (s : Text) : Text × Option Text :=
  match s.dropWhile (· ≠ '=') with
  | [] => (s, none)
  | _ :: value => (s.takeWhile (· ≠ '='), some value)

/-- The kind of word that a spelling makes. -/
def Spelling.ofText : Text → Spelling
  | ['-', '-'] => .divider
  | '-' :: '-' :: rest => .long (splitAtEquals rest).1 (splitAtEquals rest).2
  | ['-'] => .plain ['-']
  | '-' :: letters => .short letters
  | word => .plain word

namespace Form

/-- Take a switch: what is given then, and the switch if it still wants its value. -/
def takeSwitch (g : Given) (s : Switch) (value : Option Text) :
    Except Stop (Given × Option Switch) :=
  match s.kind.takesValue, value with
  | true, some value => (g.addSwitch s value).map (·, none)
  | true, none => .ok (g, some s)
  | false, some _ => .error .misuse
  | false, none =>
    match s.kind with
    | .help => .error .help
    | .version => .error .version
    | _ => (g.addSwitch s []).map (·, none)

/-- Take switches by their letters. -/
def takeLetters (f : Form) : Given → Text → Except Stop (Given × Option Switch)
  | g, [] => .ok (g, none)
  | g, letter :: rest =>
    match f.switches.find? (·.letter == some letter) with
    | none => .error .misuse
    | some s =>
      if s.kind.takesValue then
        -- whatever follows the letter is the value
        match rest with
        | [] => .ok (g, some s)
        | '=' :: value => takeSwitch g s (some value)
        | value => takeSwitch g s (some value)
      else
        match takeSwitch g s none with
        | .ok (g, _) => f.takeLetters g rest
        | .error stop => .error stop

/-- Take a switch by its name. -/
def takeName (f : Form) (g : Given) (name : Text) (value : Option Text) :
    Except Stop (Given × Option Switch) :=
  match f.switches.find? (·.name == name) with
  | none => .error .misuse
  | some s => takeSwitch g s value

/-- Take words that are operands whatever they look like. -/
def takeOperands (f : Form) : Given → List Text → Except Stop Given
  | g, [] => .ok g
  | g, word :: rest =>
    match g.addOperand f.operandLimit word with
    | .ok g => f.takeOperands g rest
    | .error stop => .error stop

/-- Read a command line after `given`; `pending` wants its value.  With it comes the task, and the
words that belong to it. -/
def scan (f : Form) :
    (pending : Option Switch) → (given : Given) → List Text →
      Except Stop (Given × Option (Text × List Text))
  | none, g, [] => .ok (g, none)
  | some _, _, [] => .error .misuse
  | pending, g, word :: rest =>
    match pending, Spelling.ofText word with
    -- a value that is a word of its own looks like an operand
    | some s, .plain value =>
      match g.addSwitch s value with
      | .ok g => f.scan none g rest
      | .error stop => .error stop
    | some _, _ => .error .misuse
    | none, .plain word =>
      if f.namesTask then .ok (g, some (word, rest))
      else
        match g.addOperand f.operandLimit word with
        | .ok g => f.scan none g rest
        | .error stop => .error stop
    | none, .divider => (f.takeOperands g rest).map (·, none)
    | none, .long name value =>
      match f.takeName g name value with
      | .ok (g, pending) => f.scan pending g rest
      | .error stop => .error stop
    | none, .short letters =>
      match f.takeLetters g letters with
      | .ok (g, pending) => f.scan pending g rest
      | .error stop => .error stop

end Form

end NameTables
