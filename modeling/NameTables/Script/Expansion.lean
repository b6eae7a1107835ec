import NameTables.Script.Pattern
import NameTables.Script.Shell

/-!
# From glyphs to words

A word expands to glyphs, which remember what was quoted and what came from a value.  Values that
are not quoted are cut into words, and quoted patterns lose their meaning.

## Main definitions

* `Glyph` — a character of an expanded word with its history.
* `fieldsOf` — the words that glyphs make.
* `Shell.glyphsOf` — the glyphs of a variable.
-/

namespace NameTables.Script

/-- What a word is expanded for. -/
inductive Role
  /-- For any number of words. -/
  | words
  /-- For one text. -/
  | text
  /-- For the value of a variable. -/
  | value
  deriving DecidableEq, Repr

/-- A part of an expanded word. -/
inductive Glyph
  /-- A character that was written so, quoted or not. -/
  | char (c : Char) (quoted : Bool)
  /-- A character of a value that was not quoted. -/
  | soft (c : Char)
  /-- A pair of quotes. -/
  | quotes
  /-- The end of a word, where arguments follow one another. -/
  | cut
  deriving DecidableEq, Repr

/-- A word whose characters may be quoted. -/
abbrev Field := List (Char × Bool)

/-- The text of a word. -/
def textOf (f : Field) : Text := f.map Prod.fst

/-- Words under construction. -/
structure Cutting where
  /-- The words that are complete, the last one first. -/
  fields : List Field
  /-- The word that is not, its last character first. -/
  current : Field
  /-- Has it begun? -/
  begun : Bool
  /-- Did blanks end the last one? -/
  spaced : Bool

namespace Cutting

/-- No words. -/
def empty : Cutting := ⟨[], [], false, false⟩

/-- One more character. -/
def push (k : Cutting) (c : Char) (quoted : Bool) : Cutting :=
  { k with current := (c, quoted) :: k.current, begun := true, spaced := false }

/-- End the word. -/
def flush (k : Cutting) (spaced : Bool) : Cutting :=
  ⟨k.current.reverse :: k.fields, [], false, spaced⟩

/-- End the word if it has begun. -/
def close (k : Cutting) : Cutting := if k.begun then k.flush false else k

/-- One more glyph, where values are cut at `separators`. -/
def add (separators : Text) (k : Cutting) : Glyph → Cutting
  | .char c quoted => k.push c quoted
  | .quotes => { k with begun := true, spaced := false }
  | .cut => k.close
  | .soft c =>
    if c ∉ separators then k.push c false
    else if c = ' ' || c = '\t' || c = '\n' then if k.begun then k.flush true else k
    else if k.begun then k.flush false
    else if k.spaced then { k with spaced := false }
    else k.flush false

end Cutting

/-- The words that glyphs make. -/
def fieldsOf (separators : Text) (gs : List Glyph) : List Field :=
  (gs.foldl (Cutting.add separators) Cutting.empty).close.fields.reverse

/-- The one word that glyphs make where values are not cut. -/
def fieldOf (gs : List Glyph) : Field :=
  gs.filterMap fun
    | .char c quoted => some (c, quoted)
    | .soft c => some (c, false)
    | .quotes => none
    | .cut => none

/-- The characters of a value as glyphs. -/
def glyphs (quoted : Bool) (s : Text) : List Glyph :=
  s.map fun c => if quoted then .char c true else .soft c

/-- Glyphs that are cut as a value is, unless quoted. -/
def soften (gs : List Glyph) : List Glyph :=
  gs.map fun
    | .char c false => .soft c
    | g => g

/-- The arguments as glyphs, each a word of its own. -/
def argumentGlyphs (quoted : Bool) : List Text → List Glyph
  | [] => []
  | [arg] => (if quoted then [.quotes] else []) ++ glyphs quoted arg
  | arg :: rest =>
    (if quoted then [.quotes] else []) ++ glyphs quoted arg ++ .cut :: argumentGlyphs quoted rest

/-- The arguments as one text. -/
def Shell.joinedArgs (s : Shell) : Text :=
  Text.join ((s.separators.head?.map fun c => [c]).getD []) s.args

/-- A value, or nothing when that has to be different from the empty text. -/
def presentValue? (orEmpty : Bool) : Option Text → Option Text
  | some [] => if orEmpty then none else some []
  | value => value

/-- The value of a variable, or of all arguments together. -/
def Shell.parameter? (s : Shell) (name : Text) : Option Text :=
  if name = ['@'] || name = ['*'] then if s.args.isEmpty then none else some s.joinedArgs
  else s.value? name

/-- Is an edit's operand made use of, when the variable has this value? -/
def Edit.usesOperand (edit : Edit) (value : Option Text) : Bool :=
  match edit with
  | .plain | .length | .malformed => false
  | .default orEmpty | .assign orEmpty | .demand orEmpty => (presentValue? orEmpty value).isNone
  | .instead orEmpty => (presentValue? orEmpty value).isSome
  | .dropLead _ | .dropTail _ => true

/-- Are all arguments words of their own? -/
def Role.separates (role : Role) (name : Text) (quoted : Bool) : Bool :=
  role = .words && (name = ['@'] || (name = ['*'] && !quoted))

/-- The glyphs of a variable's value as it is. -/
def Shell.wholeGlyphs (s : Shell) (role : Role) (name : Text) (value : Option Text)
    (quoted : Bool) : List Glyph :=
  if role.separates name quoted then argumentGlyphs quoted s.args
  else glyphs quoted (value.getD [])

/-- The role of an operand.  What is to be a value, a pattern or a message is one text. -/
def Edit.operandRole (edit : Edit) (role : Role) : Role :=
  match edit with
  | .default _ | .instead _ => role
  | _ => .text

/-- The directory of a user; without a name, the one that a variable tells. -/
def Shell.homeOf? (s : Shell) (user : Text) : Option Text :=
  if user.isEmpty then s.bindings.get? "HOME".toList
  else
    let lines := ((s.files.read (Shell.path "/etc/passwd".toList)).toOption.map ofBytes).getD []
    (splitAt (· = '\n') lines).findSome? fun line =>
      match splitAt (· = ':') line with
      | name :: _ :: _ :: _ :: _ :: home :: _ => if name = user then some home else none
      | _ => none

/-- The glyphs of a tilde with the name of a user, which stays what it is if there is no such user
or only values have directories there. -/
def Shell.homeGlyphs (s : Shell) (role : Role) (user : Text) (assigned : Bool) : List Glyph :=
  match if assigned && role ≠ .value then none else s.homeOf? user with
  | some home => glyphs true home
  | none => ('~' :: user).map (.char · false)

/-- What is said of a variable without value. -/
def absenceText (name : Text) (orEmpty : Bool) (operand : Text) : Text :=
  let said :=
    if !operand.isEmpty then operand
    else "parameter not set".toList ++ if orEmpty then " or null".toList else []
  name ++ ": ".toList ++ said

/-- The glyphs of a variable after an edit, and the shell after it; `operand` are the glyphs of the
edit's operand, if use is made of it. -/
def Shell.glyphsOf (s : Shell) (role : Role) (name : Text) (edit : Edit) (operand : List Glyph)
    (quoted : Bool) : List Glyph × Shell :=
  let value := s.parameter? name
  let whole := s.wholeGlyphs role name value quoted
  let operandGlyphs := if quoted then operand else soften operand
  let isList := name = ['@'] || name = ['*']
  let missing := s.has 'u' && value.isNone && !isList
  let unset := ([], s.abort (absenceText name false []))
  match edit with
  | .malformed => ([], s.abort "Bad substitution".toList)
  | .plain => if missing then unset else (whole, s)
  | .length =>
    if missing then unset
    else (glyphs quoted (Text.ofNat (value.getD []).length), s)
  | .default orEmpty =>
    if (presentValue? orEmpty value).isSome then (whole, s) else (operandGlyphs, s)
  | .assign orEmpty =>
    if (presentValue? orEmpty value).isSome then (whole, s)
    else if !isName name then ([], s.abort (name ++ ": bad variable name".toList))
    else
      let text := textOf (fieldOf operand)
      (glyphs quoted text, s.setVariable name text)
  | .demand orEmpty =>
    if (presentValue? orEmpty value).isSome then (whole, s)
    else ([], s.abort (absenceText name orEmpty (textOf (fieldOf operand))))
  | .instead orEmpty =>
    if (presentValue? orEmpty value).isSome then (operandGlyphs, s) else ([], s)
  | .dropLead longest =>
    let pattern := atoms (fieldOf operand)
    if missing then unset
    else if role.separates name quoted then
      (argumentGlyphs quoted (dropLeadOfRow pattern longest s.args), s)
    else (glyphs quoted (dropLead pattern longest (value.getD [])), s)
  | .dropTail longest =>
    let pattern := atoms (fieldOf operand)
    if missing then unset
    else if role.separates name quoted then
      (argumentGlyphs quoted (dropTailOfRow pattern longest s.args), s)
    else (glyphs quoted (dropTail pattern longest (value.getD [])), s)

/-- The names in a directory that match a pattern, in order; a name that begins with a dot only
matches a pattern that does. -/
def Shell.namesMatching (s : Shell) (directory : Text) (pattern : List Atom) : List Text :=
  let dir := if directory.isEmpty then ['.'] else directory
  match s.files.locate (Shell.path dir) with
  | .error _ => []
  | .ok place =>
    let names := [['.'], ['.', '.']] ++ (s.files.entries place).map fun entry => octets entry.1
    let isShown := fun name : Text => name.head? ≠ some '.' || pattern.head? = some (.char '.')
    (names.filter fun name => isShown name && matchesAll pattern name).mergeSort fun a b =>
      (compareTexts a b).isLE

/-- The paths that match the segments of a pattern below a directory. -/
def Shell.pathsMatching (s : Shell) : (directory : Text) → List Field → List Text
  | directory, [] => [directory]
  | directory, segment :: rest =>
    let lead := fun name : Text => directory ++ name ++ if rest.isEmpty then [] else ['/']
    let isPattern := (atoms segment).any fun a => match a with | .char _ => false | _ => true
    if isPattern then
      (s.namesMatching directory (atoms segment)).flatMap fun name =>
        s.pathsMatching (lead name) rest
    else if rest.isEmpty && (s.files.linkAt? (Shell.path (lead (textOf segment)))).isNone then []
    else s.pathsMatching (lead (textOf segment)) rest

/-- The words that a word stands for: the paths that match it if it is a pattern that any path
matches, else its text. -/
def Shell.pathnames (s : Shell) (f : Field) : List Text :=
  if !s.has 'f' && (atoms f).any fun a => match a with | .char _ => false | _ => true then
    match s.pathsMatching [] (splitAt (fun x => x.1 = '/') f) with
    | [] => [textOf f]
    | paths => paths
  else [textOf f]

end NameTables.Script
