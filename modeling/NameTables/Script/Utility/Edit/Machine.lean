import NameTables.Script.Utility.Edit.Reading

/-!
# Carrying out programs that edit lines

A machine holds the text that is edited and one that is kept.  It goes on until it needs another
line or a file, or until it has done all for a line; so what it does by itself is a function.

## Main definitions

* `Edit.Machine` — the state.
* `Edit.Machine.step` — one instruction.
* `Edit.Machine.advance` — instructions, as far as nothing else is needed.
-/

namespace NameTables.Script.Edit

/-- A text with whether its line has an end. -/
structure Buffer where
  /-- The text, in characters. -/
  text : Text
  /-- Has its line an end? -/
  ended : Bool

/-- What is printed, and where. -/
structure Printed where
  /-- The file; none for the output. -/
  file : Option Text
  /-- The text, in octets. -/
  text : Text
  /-- Is the line without an end, which is added when more follows? -/
  unended : Bool

/-- What is printed behind a line. -/
inductive Appended
  /-- A text. -/
  | text (s : Text)
  /-- A file. -/
  | file (name : Text)
  /-- A line of a file. -/
  | line (name : Text)

/-- What a machine needs, or how far it has come. -/
inductive Status
  /-- It goes on. -/
  | running
  /-- It needs the next line, in place of the text or behind it. -/
  | wants (adds : Bool)
  /-- It has done all for the line. -/
  | done
  /-- It has done all for the line, and begins again with what is left. -/
  | again
  /-- It has a command to be carried out, whose output is printed or becomes the text. -/
  | runs (command : Text) (becomes : Bool) (prints : Bool)
  /-- It ends with a status; the text is printed before that or not. -/
  | quits (status : Nat) (prints : Bool)
  /-- It cannot go on. -/
  | fails (message : Text)

/-- What is known of a range of lines. -/
inductive RangeState
  /-- It has not begun. -/
  | outside
  /-- It has begun, and ends at a line if that is known. -/
  | inside (stop : Option Nat)

/-- A machine. -/
structure Machine where
  /-- The number of the next instruction. -/
  place : Nat
  /-- The text that is edited. -/
  pattern : Buffer
  /-- The text that is kept. -/
  kept : Buffer
  /-- The number of the line. -/
  line : Nat
  /-- Is it the last one? -/
  isLast : Bool
  /-- The name of the file. -/
  name : Text
  /-- Has something been replaced since the last line came or the last jump? -/
  replaced : Bool
  /-- Has the text been dropped, so that it is not printed? -/
  dropped : Bool
  /-- What is to be printed behind the line, the last one first. -/
  appended : List Appended
  /-- What has been printed, the last one first. -/
  printed : List Printed
  /-- The ranges of the instructions. -/
  ranges : Array RangeState
  /-- The regular expression that was used last. -/
  lastRegex : Option Regex
  /-- How far it has come. -/
  status : Status

/-- What does not change while a machine is at work. -/
structure Setting where
  /-- The instructions. -/
  program : Program
  /-- Is the text printed only when told? -/
  quiet : Bool
  /-- The character at the end of lines. -/
  stop : Char
  /-- The width of lines that leave no doubt. -/
  width : Nat

namespace Machine

/-- The state of ranges at the beginning: one that begins at line zero has begun already. -/
def firstRanges (p : Program) : Array RangeState :=
  p.map fun i =>
    match i.lines.first with
    | some (.line 0) => .inside none
    | _ => .outside

/-- A machine at its beginning. -/
def start (p : Program) : Machine where
  place := 0
  pattern := ⟨[], true⟩
  kept := ⟨[], true⟩
  line := 0
  isLast := false
  name := ['-']
  replaced := false
  dropped := false
  appended := []
  printed := []
  ranges := firstRanges p
  lastRegex := none
  status := .done

/-- Print text. -/
def emit (m : Machine) (file : Option Text) (text : Text) (unended : Bool) : Machine :=
  { m with printed := ⟨file, text, unended⟩ :: m.printed }

/-- Print a text as a line. -/
def emitLine (m : Machine) (g : Setting) (file : Option Text) (b : Buffer) : Machine :=
  m.emit file (octetsOf b.text ++ if b.ended then [g.stop] else []) (!b.ended)

/-- The regular expression of an expression. -/
def regexOf (m : Machine) (e : Expression) : Option Regex := e.regex.or m.lastRegex

/-- What is said when there is no regular expression yet. -/
def noRegex : Status := .fails "-e expression #1, char 0: no previous regular expression".toList

/-- Is the line one that is meant by an address? -/
def isAt (m : Machine) (a : Address) : Bool × Machine :=
  match a with
  | .line n => (m.line = n, m)
  | .every first step =>
    (first ≤ m.line && (m.line - first) % step = 0, m)
  | .last => (m.isLast, m)
  | .matching e =>
    match m.regexOf e with
    | some r =>
      ((r.search? e.anyCase (.ofText m.pattern.text)).isSome, { m with lastRegex := some r })
    | none => (false, { m with status := noRegex })

/-- Is the line one that an instruction is carried out for? -/
def isMeant (m : Machine) (place : Nat) (lines : Addressing) : Bool × Machine :=
  let (found, m) :=
    match lines.first, lines.last with
    | none, _ => (true, m)
    | some a, none => m.isAt a
    | some a, some stop =>
      let set := fun (m : Machine) (r : RangeState) =>
        { m with ranges := m.ranges.setIfInBounds place r }
      match (m.ranges[place]?).getD .outside with
      | .outside =>
        match m.isAt a with
        | (false, m) => (false, m)
        | (true, m) =>
          match stop with
          | .address (.line n) => (true, if n ≤ m.line then m else set m (.inside (some n)))
          | .address _ => (true, set m (.inside none))
          | .after n => (true, if n = 0 then m else set m (.inside (some (m.line + n))))
          | .multiple n =>
            let next := if n = 0 then m.line else (m.line / n + 1) * n
            (true, if next ≤ m.line then m else set m (.inside (some next)))
      | .inside (some n) =>
        let m := if n ≤ m.line then set m .outside else m
        (m.line ≤ n, m)
      | .inside none =>
        match stop with
        | .address b =>
          match m.isAt b with
          | (true, m) => (true, set m .outside)
          | (false, m) => (true, m)
        | _ => (true, m)
  (found != lines.negated, m)

/-- Is the range of an instruction still open? -/
def isInside (m : Machine) (place : Nat) : Bool :=
  match (m.ranges[place]?).getD .outside with
  | .inside _ => true
  | .outside => false

/-! ### Replacing -/

/-- A letter in upper or lower case. -/
def cased (c : Casing) (d : Char) : Char :=
  match c with
  | .keep => d
  | .upper => upperOf d
  | .lower => lowerOf d
where
  /-- The letter in upper case; the Latin letters beyond ASCII have a fixed distance. -/
  upperOf (d : Char) : Char :=
    let n := d.toNat
    if 0xe0 ≤ n && n ≤ 0xfe && n ≠ 0xf7 then Char.ofNat (n - 32)
    else if 0x3b1 ≤ n && n ≤ 0x3c9 && n ≠ 0x3c2 then Char.ofNat (n - 32)
    else if 0x430 ≤ n && n ≤ 0x44f then Char.ofNat (n - 32)
    else d.toUpper
  /-- The letter in lower case. -/
  lowerOf (d : Char) : Char :=
    let n := d.toNat
    if 0xc0 ≤ n && n ≤ 0xde && n ≠ 0xd7 then Char.ofNat (n + 32)
    else if 0x391 ≤ n && n ≤ 0x3a9 then Char.ofNat (n + 32)
    else if 0x410 ≤ n && n ≤ 0x42f then Char.ofNat (n + 32)
    else d.toLower

/-- What parts make of a match: the text, turned around, and what letters become behind it. -/
def replacement (start after : Regex.State) (parts : List Part) : Text :=
  let whole := start.rest.take (after.position - start.position)
  let add := fun (found : Text × Casing × Option Casing) (s : Text) =>
    s.foldl (fun (text, casing, once) c =>
      ((match once with
        | some o => cased o c
        | none => cased casing c) :: text, casing, none)) found
  (parts.foldl (fun (found : Text × Casing × Option Casing) part =>
    let (text, casing, _) := found
    match part with
    | .text s => add found s
    | .group 0 => add found whole
    | .group n => add found ((after.group? n).getD [])
    | .casing c => (text, c, none)
    | .once c => (text, casing, some c)) ([], .keep, none)).1

/-- What is left of a text after matches have been replaced, turned around, and whether any has been;
`count` matches came before, and the last one ended at `barred` if it was not empty. -/
def replaced? (r : Regex) (anyCase : Bool) (s : Substitution) : (fuel : Nat) → Regex.State →
    (count : Nat) → (barred : Option Nat) → (taken : Text) → (done : Bool) → Text × Bool
  | 0, st, _, _, taken, done => (st.rest.reverse ++ taken, done)
  | fuel + 1, st, count, barred, taken, done =>
    match r.search? anyCase st with
    | none => (st.rest.reverse ++ taken, done)
    | some (start, after) =>
      let before := st.rest.take (start.position - st.position)
      let taken := before.reverse ++ taken
      let isEmpty := after.position = start.position
      let skip := fun (taken : Text) (count : Nat) (done : Bool) =>
        match after.next? with
        | some (c, next) =>
          replaced? r anyCase s fuel { next with groups := [] } count none (c :: taken) done
        | none => (taken, done)
      if isEmpty && barred = some start.position then skip taken count done
      else
        let count := count + 1
        if count < s.first then
          if isEmpty then skip taken count done
          else
            let same := start.rest.take (after.position - start.position)
            replaced? r anyCase s fuel { after with groups := [] } count (some after.position)
              (same.reverse ++ taken) done
        else
          let taken := replacement start after s.parts ++ taken
          if !s.all then (after.rest.reverse ++ taken, true)
          else if isEmpty then skip taken count true
          else
            replaced? r anyCase s fuel { after with groups := [] } count (some after.position)
              taken true

/-- Replace matches in the text. -/
def substitute (m : Machine) (g : Setting) (s : Substitution) : Machine :=
  match m.regexOf s.expression with
  | none => { m with status := noRegex }
  | some r =>
    let text := m.pattern.text
    let (found, done) := replaced? r s.expression.anyCase s (text.length + 2) (.ofText text) 0 none
      [] false
    let m := { m with lastRegex := some r }
    if !done then m
    else
      let m := { m with pattern := { m.pattern with text := found.reverse }, replaced := true }
      if s.runs then
        { m with status := .runs (octetsOf m.pattern.text) true s.prints }
      else
        let m := if s.prints then m.emitLine g none m.pattern else m
        match s.file with
        | some file => m.emitLine g (some file) m.pattern
        | none => m

/-! ### Showing -/

/-- An octet in a form that leaves no doubt. -/
def clear (c : Char) : Text :=
  match c with
  | '\\' => "\\\\".toList
  | '\x07' => "\\a".toList
  | '\x08' => "\\b".toList
  | '\x0c' => "\\f".toList
  | '\n' => "\\n".toList
  | '\r' => "\\r".toList
  | '\t' => "\\t".toList
  | '\x0b' => "\\v".toList
  | c =>
    if ' ' ≤ c && c ≤ '~' then [c]
    else
      let digits := Nat.toDigits 8 c.toNat
      '\\' :: List.replicate (3 - digits.length) '0' ++ digits

/-- A text in a form that leaves no doubt, in lines of a width if that is not zero. -/
def shown (width : Nat) (s : Text) : Text :=
  let (text, _) := s.foldl (fun (found : List Text × Nat) c =>
    let (pieces, column) := found
    let piece := clear c
    if 0 < width && width - 1 < column + piece.length then
      (piece :: "\\\n".toList :: pieces, piece.length)
    else (piece :: pieces, column + piece.length)) ([], 0)
  text.reverse.flatten ++ ['$', '\n']

/-! ### Steps -/

/-- The first line of a text, and what follows its end if it has one. -/
def firstLine (stop : Char) (s : Text) : Text × Option Text :=
  match s.dropWhile (· ≠ stop) with
  | _ :: rest => (s.takeWhile (· ≠ stop), some rest)
  | [] => (s, none)

/-- Go on at a label, or at the end. -/
def jumpTo (m : Machine) (g : Setting) (label : Text) : Machine :=
  if label.isEmpty then { m with place := g.program.size }
  else { m with place := (placeOf? g.program label).getD g.program.size }

/-- Carry out an instruction that has just been passed. -/
def perform (m : Machine) (g : Setting) (place : Nat) (i : Instruction) : Machine :=
  let setText := fun (text : Text) => { m with pattern := { m.pattern with text } }
  match i.action with
  | .block _ => m
  | .nothing => m
  | .label _ => m
  | .tellNumber => m.emit none (Text.ofNat m.line ++ ['\n']) false
  | .append s => { m with appended := .text s :: m.appended }
  | .insert s => m.emit none s false
  | .change s =>
    let m := if i.lines.last.isSome && !i.lines.negated && m.isInside place then m
      else m.emit none s false
    { m with dropped := true, status := .done }
  | .jump label => m.jumpTo g label
  | .jumpIf label => if m.replaced then { m with replaced := false }.jumpTo g label else m
  | .jumpUnless label => if m.replaced then { m with replaced := false } else m.jumpTo g label
  | .drop => { m with dropped := true, status := .done }
  | .dropLine =>
    match firstLine g.stop m.pattern.text with
    | (_, some rest) =>
      { m with pattern := { m.pattern with text := rest }, dropped := true, status := .again }
    | (_, none) => { m with dropped := true, status := .done }
  | .run command =>
    if command.isEmpty then { m with status := .runs (octetsOf m.pattern.text) true false }
    else { m with status := .runs command false false }
  | .tellName => m.emit none (m.name ++ ['\n']) false
  | .get => { m with pattern := m.kept }
  | .addKept => setText (m.pattern.text ++ g.stop :: m.kept.text)
  | .keep => { m with kept := m.pattern }
  | .addToKept => { m with kept := { m.kept with text := m.kept.text ++ g.stop :: m.pattern.text } }
  | .swap => { m with pattern := m.kept, kept := m.pattern }
  | .show width => m.emit none (shown (width.getD g.width) (octetsOf m.pattern.text)) false
  | .next =>
    if m.isLast then { m with status := .done }
    else
      let m := if g.quiet then m else m.emitLine g none m.pattern
      { m with status := .wants false }
  | .addNext =>
    if m.isLast then { m with status := .done } else { m with status := .wants true }
  | .print => m.emitLine g none m.pattern
  | .printLine => m.emit none (octetsOf (firstLine g.stop m.pattern.text).1 ++ [g.stop]) false
  | .quit status => { m with status := .quits status true }
  | .abort status => { m with status := .quits status false }
  | .read file => { m with appended := .file file :: m.appended }
  | .readLine file => { m with appended := .line file :: m.appended }
  | .substitute s => m.substitute g s
  | .write file => m.emitLine g (some file) m.pattern
  | .writeLine file =>
    m.emit (some file) (octetsOf (firstLine g.stop m.pattern.text).1 ++ [g.stop]) false
  | .translate pairs => setText (m.pattern.text.map fun c => (pairs.lookup c).getD c)
  | .clear => setText []

/-- Take one step. -/
def step (m : Machine) (g : Setting) : Machine :=
  match g.program[m.place]? with
  | none => { m with status := .done }
  | some i =>
    let place := m.place
    let (meant, m) := m.isMeant place i.lines
    match m.status with
    | .running =>
      match i.action, meant with
      | .block stop, false => { m with place := stop }
      | _, false => { m with place := place + 1 }
      | _, true => { m with place := place + 1 }.perform g place i
    | _ => m

/-- Take steps as long as nothing else is needed, so many at most. -/
def advance (g : Setting) : (fuel : Nat) → Machine → Machine
  | 0, m => m
  | fuel + 1, m =>
    match m.status with
    | .running => advance g fuel (m.step g)
    | _ => m

end Machine

end NameTables.Script.Edit
