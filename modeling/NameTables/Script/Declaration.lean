import NameTables.Script.Options
import NameTables.Script.Stream

/-!
# Commands that declare variables

Variables may be given to programs, be fixed, belong to a function, be unset, get a line of the
input, or get the next option among some arguments.

## Main definitions

* `Shell.exportNames`, `Shell.fixNames` — variables that programs get, and ones that are fixed.
* `Shell.localNames`, `Shell.leaveLocals` — variables of a function.
* `Shell.unsetNames` — variables and functions that are no more.
* `Shell.readLine` — variables that get a line.
* `Shell.nextOption` — a variable that gets an option.
-/

namespace NameTables.Script

/-- A name and the value after the equals sign. -/
def splitAssignment (word : Text) : Text × Option Text :=
  match word.dropWhile (· ≠ '=') with
  | [] => (word, none)
  | _ :: value => (word.takeWhile (· ≠ '='), some value)

namespace Shell

/-- Do something for each word as long as nothing goes wrong. -/
def forWords (s : Shell) (words : List Text) (act : Shell → Text → Shell) : Shell :=
  words.foldl (fun s word => if s.goes then act s word else s) s

/-- End the shell because of a name that no variable can have. -/
def refuseName (s : Shell) (name : Text) : Shell :=
  s.abort (name ++ ": bad variable name".toList)

/-- Declare variables, which may be set as well; without any, those that are declared so already are
printed. -/
def declare (s : Shell) (command : Text) (declared : Shell → List Text)
    (mark : Shell → Text → Shell) (args : List Text) : Shell :=
  match optionsIn ['p'] [] args with
  | .error said => s.abort said
  | .ok (options, words) =>
    let s := s.withStatus 0
    if isGiven 'p' options || words.isEmpty then
      s.tellVariables (command ++ [' ']) (declared s)
    else
      s.forWords words fun s word =>
        let (name, value) := splitAssignment word
        if !isName name then s.refuseName name
        else
          match value with
          | some value =>
            let s := s.setVariable name value
            if s.goes then mark s name else s
          | none => mark s name

/-- Let programs get variables. -/
def exportNames (s : Shell) (args : List Text) : Shell :=
  s.declare "export".toList (·.exported) (fun s name =>
    if name ∈ s.exported then s else { s with exported := name :: s.exported }) args

/-- Let variables keep their values. -/
def fixNames (s : Shell) (args : List Text) : Shell :=
  s.declare "readonly".toList (·.fixed) (fun s name =>
    if name ∈ s.fixed then s else { s with fixed := name :: s.fixed }) args

/-- Let variables belong to the function, and set them.  A hyphen stands for the options. -/
def localNames (s : Shell) (args : List Text) : Shell :=
  match s.locals with
  | none => s.abort "not in a function".toList
  | some _ =>
    (s.withStatus 0).forWords args fun s word =>
      let keep := fun (s : Shell) (name : Text) (value : Option Text) =>
        { s with locals := s.locals.map ((name, value) :: ·) }
      if word = ['-'] then keep s word (some s.options)
      else
        let (name, value) := splitAssignment word
        if !isName name then { s with speaker := none }.refuseName name
        else
          let s := keep s name (s.bindings.get? name)
          match value with
          | some value => s.setVariable name value
          | none => s

/-- The shell with the variables of a function set back to what they were before, and with the
variables of an earlier one as its own. -/
def leaveLocals (s : Shell) (outer : Option (List (Text × Option Text))) : Shell :=
  let back := fun (s : Shell) ((name, value) : Text × Option Text) =>
    if name = ['-'] then { s with options := value.getD [] }
    else
      match value with
      | some value => { s with bindings := s.bindings.set name value }
      | none => { s with bindings := s.bindings.unset name }
  { (s.locals.getD []).foldl back s with locals := outer }

/-- Unset variables or functions. -/
def unsetNames (s : Shell) (args : List Text) : Shell :=
  match optionsIn ['v', 'f'] [] args with
  | .error said => s.abort said
  | .ok (options, words) =>
    (s.withStatus 0).forWords words fun s name =>
      if (options.getLast?.map Prod.fst) = some 'f' then
        { s with functions := s.functions.filter (·.1 != name) }
      else if !isName name then s.refuseName name
      else if name ∈ s.fixed then s.abort (name ++ ": is read only".toList)
      else
        { s with
          bindings := s.bindings.unset name
          exported := s.exported.filter (· != name) }

/-! ### Lines -/

/-- The glyphs of a character of a line. -/
def lineGlyphs (c : Char) : List Glyph :=
  -- there is no text with a NUL in it
  if c = '\x00' then [] else [.soft c]

/-- Read a line from something opened, character by character, so that what follows stays to be read;
`read` is what has been read, the last glyph first.  Unless the line is raw, a backslash takes the
meaning from a character and joins lines.  The answer tells whether a line end was there. -/
def readGlyphs (id : Nat) (raw : Bool) : (fuel : Nat) → List Glyph → Run (List Glyph × Bool)
  | 0, read => return (read.reverse, false)
  | fuel + 1, read => do
    match ← Run.readFrom id 1 Run.readLimit with
    | .ok ['\n'] => return (read.reverse, true)
    | .ok ['\\'] =>
      if raw then readGlyphs id raw fuel (.soft '\\' :: read)
      else
        match ← Run.readFrom id 1 Run.readLimit with
        | .ok ['\n'] => readGlyphs id raw fuel read
        | .ok [c] => readGlyphs id raw fuel (.char c true :: read)
        | _ => return (read.reverse, false)
    | .ok [c] => readGlyphs id raw fuel (lineGlyphs c ++ read)
    | _ => return (read.reverse, false)

/-- Is the glyph a blank at which values are cut? -/
def isSoftBlank (separators : Text) : Glyph → Bool
  | .soft c => (c = ' ' || c = '\t' || c = '\n') && c ∈ separators
  | _ => false

/-- Is the glyph one at which values are cut? -/
def isSoftSeparator (separators : Text) : Glyph → Bool
  | .soft c => c ∈ separators
  | _ => false

/-- What follows a word: the blanks behind it and one separator with its blanks are passed. -/
def behindWord (separators : Text) (gs : List Glyph) : List Glyph :=
  match gs.dropWhile (isSoftBlank separators) with
  | g :: rest =>
    if isSoftSeparator separators g then rest.dropWhile (isSoftBlank separators) else g :: rest
  | [] => []

/-- Spread a line over variables: each gets a word, and the last one all that is left, without the
separator behind it if that is one word. -/
def spread (separators : Text) : List Text → List Glyph → List (Text × Text)
  | [], _ => []
  | name :: rest, gs =>
    let gs := gs.dropWhile (isSoftBlank separators)
    let word := gs.takeWhile fun g => !isSoftSeparator separators g
    let after := behindWord separators (gs.drop word.length)
    if rest.isEmpty && !after.isEmpty then
      let kept := (gs.reverse.dropWhile (isSoftBlank separators)).reverse
      [(name, textOf (fieldOf kept))]
    else (name, textOf (fieldOf word)) :: spread separators rest after

/-- Give the words of a line to variables. -/
def giveWords (s : Shell) (names : List Text) (gs : List Glyph) : Shell :=
  (spread s.separators names gs).foldl (fun s (name, value) =>
    if !s.goes then s
    else if !isName name then s.refuseName name
    else s.setVariable name value) s

/-- Read a line of input into variables. -/
def readLine (args : List Text) : Run Unit := do
  match optionsIn ['r'] ['p'] args with
  | .error said => modify (·.abort said)
  | .ok (_, []) => modify (·.abort "arg count".toList)
  | .ok (options, names) =>
    match (← get).channel? 0 with
    | none => modify fun s => ((s.withStatus 1).giveWords names [])
    | some id =>
      let (gs, ended) ← readGlyphs id (isGiven 'r' options) Run.readLimit []
      modify fun s => (s.withStatus (if ended then 0 else 1)).giveWords names gs

/-! ### Options of scripts -/

/-- What the search for the next option finds. -/
structure FoundOption where
  /-- The letter, a question mark if it is none that is known, or a colon if its word is missing. -/
  letter : Char
  /-- The word that belongs to it. -/
  word : Option Text
  /-- What is said about it. -/
  said : Text
  /-- The number of the argument that comes next, and of the letter in the one before. -/
  next : Nat × Nat
  /-- Are there no more options? -/
  done : Bool

/-- Does the letter stand among the ones that are known, and does a word belong to it? -/
def knownLetter? (c : Char) : Text → Option Bool
  | [] => none
  | d :: ':' :: rest => if c = d then some true else knownLetter? c rest
  | d :: rest => if c = d then some false else knownLetter? c rest

/-- The option whose letter, and what follows it in its argument, is given; `index` is the number of
the argument that comes next. -/
def optionFrom (known : Text) (args : List Text) (index offset : Nat) (c : Char) (rest : Text) :
    FoundOption :=
  let quiet := known.head? = some ':'
  let goOn := (index, if rest.isEmpty then 0 else offset + 1)
  let fault := fun (letter : Char) (said : String) (next : Nat × Nat) =>
    if quiet then FoundOption.mk letter (some [c]) [] next false
    else FoundOption.mk '?' none (said.toList ++ c :: (if letter = ':' then " option\n".toList
      else ['\n'])) next false
  match if c = ':' then none else knownLetter? c known with
  | none => fault '?' "Illegal option -" goOn
  | some false => ⟨c, some [], [], goOn, false⟩
  | some true =>
    if !rest.isEmpty then ⟨c, some rest, [], (index, 0), false⟩
    else
      match args[index - 1]? with
      | some word => ⟨c, some word, [], (index + 1, 0), false⟩
      | none => fault ':' "No arg for -" (index, 0)

/-- The next option among arguments, when the argument and the letter to look at are given; behind
the last argument the search begins anew. -/
def optionAmong (known : Text) (args : List Text) : Nat × Nat → FoundOption
  | (index, offset) =>
    let (index, offset) := if args.length + 1 < index then (1, 0) else (index, offset)
    let started := if offset = 0 then [] else ((args[index - 2]?).getD []).drop offset
    match started with
    | c :: rest => optionFrom known args index offset c rest
    | [] =>
      match args[index - 1]? with
      | some ['-', '-'] => ⟨'?', none, [], (index + 1, 0), true⟩
      | some ('-' :: c :: rest) => optionFrom known args (index + 1) 1 c rest
      | _ => ⟨'?', none, [], (index, 0), true⟩

/-- Let a variable have the next option among the arguments. -/
def nextOption (s : Shell) (args : List Text) : Shell :=
  match args with
  | known :: name :: words =>
    let words := if words.isEmpty then s.args else words
    let found := optionAmong known words s.optionAt
    let s := (s.write 2 found.said).ofTest (!found.done)
    let s :=
      match found.word with
      | some word => s.setVariable "OPTARG".toList word
      | none =>
        if found.done then s
        else { s with bindings := s.bindings.unset "OPTARG".toList }
    let s := s.setVariable "OPTIND".toList (Text.ofNat found.next.1)
    if !isName name then s.refuseName name
    else { s.setVariable name [found.letter] with optionAt := found.next }
  | _ => s.abort "Usage: getopts optstring var [arg...]".toList

end Shell

end NameTables.Script
