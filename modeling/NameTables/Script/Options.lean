import NameTables.Script.Lookup

/-!
# Options

A word that begins with a hyphen gives options to a command, a letter for each.  The shell's own
options are set and listed by letter or by name.

## Main definitions

* `optionsIn` — the options in front of arguments.
* `inQuoteMarks` — a value as it could be written in a script.
* `Shell.set` — what the command `set` does.
* `Setting` — options as they are being set.
-/

namespace NameTables.Script

/-- The letters in a word, with the words that belong to them, and a letter whose word is missing.
Those that are `taking` have a word, and those that are `plain` have none; any other one is a
fault. -/
def lettersIn (plain taking : Text) : Text → Except Char (List (Char × Text) × Option Char)
  | [] => .ok ([], none)
  | c :: more =>
    if c ∈ taking then
      if more.isEmpty then .ok ([], some c) else .ok ([(c, more)], none)
    else if c ∈ plain then do
      let (letters, last) ← lettersIn plain taking more
      return ((c, []) :: letters, last)
    else .error c

/-- The options in front of arguments, and the arguments behind them; or what is wrong. -/
def optionsIn (plain taking : Text) : List Text → Except Text (List (Char × Text) × List Text)
  | [] => .ok ([], [])
  | word :: rest =>
    match word with
    | ['-', '-'] => .ok ([], rest)
    | '-' :: c :: more =>
      match lettersIn plain taking (c :: more), rest with
      | .error c, _ => .error ("Illegal option -".toList ++ [c])
      | .ok (letters, none), rest => do
        let (others, rest) ← optionsIn plain taking rest
        return (letters ++ others, rest)
      | .ok (letters, some c), value :: rest => do
        let (others, rest) ← optionsIn plain taking rest
        return (letters ++ (c, value) :: others, rest)
      | .ok (_, some c), [] => .error ("No arg for -".toList ++ c :: " option".toList)
    | _ => .ok ([], word :: rest)

/-- Is the letter among the options? -/
def isGiven (letter : Char) (options : List (Char × Text)) : Bool :=
  options.any (·.1 == letter)

namespace Shell

/-- Print what a command tells. -/
def tell (s : Shell) (text : Text) : Shell :=
  if text.isEmpty then s
  else
    match s.put 1 text with
    | (none, s) => s
    | (some _, s) =>
      if s.isOver then s
      else (s.complain ((s.speaker.getD []) ++ ": I/O error".toList)).withStatus 1

/-- Print the variables with these names and their values, in order, behind a word. -/
def tellVariables (s : Shell) (lead : Text) (names : List Text) : Shell :=
  let names := names.eraseDups.mergeSort fun a b => (compareTexts a b).isLE
  let line := fun name : Text =>
    lead ++ name ++ (match s.bindings.get? name with
      | some value => '=' :: inQuoteMarks value
      | none => []) ++ ['\n']
  s.tell (names.flatMap line)

/-- Print the options: a table, or the commands that set them. -/
def tellOptions (s : Shell) (asTable : Bool) : Shell :=
  let isOn := fun letter : Option Char => (letter.map s.has).getD false
  if asTable then
    s.tell ("Current option settings\n".toList ++ optionNames.flatMap fun (letter, name) =>
      Text.padRight 16 name.toList ++ (if isOn letter then "on\n".toList else "off\n".toList))
  else
    s.tell (optionNames.flatMap fun (letter, name) =>
      (if isOn letter then "set -o ".toList else "set +o ".toList) ++ name.toList ++ ['\n'])

/-- Set or clear an option by its letter. -/
def setOption (s : Shell) (on : Bool) (letter : Char) : Shell :=
  if letter ∉ optionLetters then s.abort ("Illegal option -".toList ++ [letter])
  else
    let others := s.options.filter (· != letter)
    { s with options := if on then letter :: others else others }

/-- Set or clear an option by its name. -/
def setNamedOption (s : Shell) (on : Bool) (name : Text) : Shell :=
  match optionNames.find? (·.2.toList == name) with
  | some (some letter, _) => s.setOption on letter
  | some (none, _) => s
  | none => s.abort ("Illegal option -o ".toList ++ name)

end Shell

/-- Options as they are being set. -/
structure Setting where
  /-- The shell that gets them. -/
  shell : Shell
  /-- The words that are left. -/
  rest : List Text
  /-- Is a text to be carried out? -/
  hasText : Bool
  /-- Did two hyphens end the options? -/
  ended : Bool

namespace Setting

/-- Set or clear the options with these letters.  Only when a shell is `starting` may it get a
text. -/
def letters (starting on : Bool) : Text → Setting → Setting
  | [], g => g
  | c :: more, g =>
    if !g.shell.goes then g
    else if starting && c = 'c' then letters starting on more { g with hasText := true }
    else if c = 'o' then
      match g.rest with
      | [] => letters starting on more { g with shell := g.shell.tellOptions on }
      | name :: rest =>
        letters starting on more { g with shell := g.shell.setNamedOption on name, rest }
    else letters starting on more { g with shell := g.shell.setOption on c }

/-- Set the options that the words begin with. -/
def words (starting : Bool) : (fuel : Nat) → Setting → Setting
  | 0, g => g
  | fuel + 1, g =>
    match g.rest with
    | ['-'] :: rest =>
      -- a hyphen alone ends the options, and on the way it clears two of them
      if starting then { g with rest }
      else { g with shell := (g.shell.setOption false 'x').setOption false 'v', rest }
    | ['-', '-'] :: rest => { g with rest, ended := true }
    | ('-' :: letters) :: rest =>
      words starting fuel (Setting.letters starting true letters { g with rest })
    | ('+' :: letters) :: rest =>
      words starting fuel (Setting.letters starting false letters { g with rest })
    | _ => g

end Setting

namespace Shell

/-- The shell with other arguments. -/
def withArgs (s : Shell) (args : List Text) : Shell := { s with args, optionAt := (1, 0) }

/-- Set options and arguments, or print all variables. -/
def set (s : Shell) (args : List Text) : Shell :=
  let s := s.withStatus 0
  if args.isEmpty then s.tellVariables [] (s.bindings.map Prod.fst)
  else
    let g := Setting.words false (args.length + 1) ⟨s, args, false, false⟩
    if g.shell.goes && (g.ended || !g.rest.isEmpty) then g.shell.withArgs g.rest else g.shell

end Shell

end NameTables.Script
