import NameTables.Script.Builtin
import NameTables.Script.Interpreter
import NameTables.Script.Utility.Catalogue

/-!
# Texts and programs

A text is carried out unit by unit, so that what it does comes before what is wrong further down.
A program is carried out in a shell of its own.  What commands do is a parameter here: they call
texts and programs in turn.

## Main definitions

* `carryOutText` — a text.
* `finish`, `heedSignals` — what is to be done at the end of a shell, and on signals.
* `startShell`, `launch` — the shell as a program, and any program.
* `call`, `replace` — a program for a command, and one in the place of the shell.
-/

namespace NameTables.Script

namespace Shell

/-- The path by which the current directory was reached, if that is known and still true. -/
def reachedBy (s : Shell) : Text :=
  match s.bindings.get? "PWD".toList with
  | some p =>
    if p.head? = some '/' && (s.files.locate (path p)).toOption = some s.files.here then p
    else octets s.files.herePath.text
  | none => octets s.files.herePath.text

/-- The variables that a shell has from the beginning. -/
def withFirstVariables (s : Shell) : Shell :=
  let set := fun (vs : Variables) (name value : String) => vs.set name.toList value.toList
  let vs := set s.bindings "IFS" " \t\n"
  let vs := set vs "OPTIND" "1"
  let vs := set (set (set vs "PS1" "# ") "PS2" "> ") "PS4" "+ "
  let vs := vs.set "PPID".toList (Text.ofNat s.parent)
  let directory := s.reachedBy
  { s with
    bindings := vs.set "PWD".toList directory
    exported := "PWD".toList :: s.exported.filter (· ≠ "PWD".toList)
    directory }

/-- The variables that programs get, as they are listed. -/
def environmentText (s : Shell) (stop : Char) : Text :=
  s.bindings.flatMap fun (name, value) =>
    if name ∈ s.exported then name ++ '=' :: value ++ [stop] else []

end Shell

variable (again : Command → Run Unit)

/-- Carry out what is left of a text, unit by unit.  A text in which there is nothing to carry out
succeeds. -/
def carryOutFrom : (fuel : Nat) → Input → (done : Bool) → Run Unit
  | 0, _, _ => return
  | fuel + 1, input, done => do
    match readUnit? { input with aliases := (← get).aliases } with
    | .error fault =>
      modify fun s =>
        ({ s with lineRead := fault.line }.complainAt fault.line fault.message).breakOff
    | .ok (none, _) => if !done then modify (·.withStatus 0)
    | .ok (some c, rest) =>
      modify fun s =>
        let s := { s with lineRead := rest.line }
        if s.has 'v' then s.write 2 (input.rest.take (input.rest.length - rest.rest.length)) else s
      if !(← get).has 'n' then again c
      if ← Run.goes then carryOutFrom fuel rest (done || !c.isSkip)

/-- Carry out a text, whose lines count from `line`. -/
def carryOutText (line : Nat) (text : Text) : Run Unit := do
  let before := (← get).lineRead
  let text := text.filter (· ≠ '\x00')
  carryOutFrom again (text.length + 2) (Input.ofText line [] text) false
  modify fun s => { s with lineRead := before }

/-- Do what is to be done on a signal, or at the end, with the status from before at hand. -/
def carryOutTrap (action : Text) : Run Unit := do
  let s ← get
  set { s with statusBefore := some s.status, alone := false }
  carryOutText again 1 action
  modify fun t => { t with statusBefore := s.statusBefore }

/-- Do what is to be done on the signals that have come. -/
def heedSignals : (fuel : Nat) → Run Unit
  | 0 => return
  | fuel + 1 => do
    let s ← get
    match s.pending with
    | [] => return
    | signal :: rest =>
      if !s.goes then return
      set { s with pending := rest }
      match s.traps.find? (·.1 == signal) with
      | some (_, action) =>
        carryOutTrap again action
        modify fun t => if t.goes then t.withStatus s.status else t
      | none => pure ()
      heedSignals fuel

/-- Take the signals that have come to the shell, and let others take theirs. -/
def takeSignals : Run Unit := do
  modify Shell.receive
  let s ← get
  if s.goes && !s.sent.isEmpty then Run.rest
  heedSignals again 65

/-- Do what is to be done at the end of a shell, and end it. -/
def finish : Run Unit := do
  let s ← get
  let ends := fun (s : Shell) =>
    match s.flow with
    | .killed _ => true
    | .late => true
    | _ => false
  if ends s then return
  let action := (s.traps.find? (·.1 == 0)).map Prod.snd
  let s := { s with traps := s.traps.filter (·.1 != 0) }
  set ({ s with flow := .go, status := s.status % 256 })
  match action with
  | none => return
  | some action =>
    carryOutTrap again action
    modify fun t =>
      if ends t || t.flow = .quit || t.flow = .broken then t else t.withStatus (s.status % 256)

/-! ### Programs -/

/-- Carry out the shell as a program: a text after `-c`, the input, or a file. -/
def startShell (args : List Text) : Run Unit := do
  let s ← get
  let g := Setting.words true (args.length + 1)
    ⟨{ s with line := 0 }.withFirstVariables, args, false, false⟩
  let s := { g.shell with line := 1 }
  if !s.goes then set s
  else if g.hasText then
    match g.rest with
    | [] => set (g.shell.abort "-c requires an argument".toList)
    | text :: rest =>
      set { s with name := rest.head?.getD s.name, args := rest.tail }
      carryOutText again 1 text
  else
    match s.has 's', g.rest with
    | false, file :: args =>
      match ← Run.contentOf (if file = ['-'] then "./-".toList else file) with
      | .ok content =>
        modify fun t => { s with toScene := t.toScene, name := file, args }
        carryOutText again 1 content
      | .error .isDirectory => set s
      | .error fault => set (g.shell.complainOf false file fault).breakOff
    | _, args =>
      let options := if s.has 's' then s.options else 's' :: s.options
      set { s with args, options }
      match ← Run.readAll 0 with
      | .ok text => carryOutText again 1 text
      | .error _ => return
  finish again

/-- The usage of the program that starts another one with other variables. -/
def environmentUsage : Usage :=
  ⟨"i0v", "uSC", [("ignore-environment", 'i'), ("unset", 'u'), ("null", '0')]⟩

/-- The arguments with a string of words in front cut apart. -/
def splitString (args : List Text) : List Text :=
  let cut := fun string : Text => (splitAt (fun c => c = ' ' || c = '\t') string).filter (· ≠ [])
  match args with
  | ('-' :: 'S' :: c :: string) :: rest => cut (c :: string) ++ rest
  | ['-', 'S'] :: string :: rest => cut string ++ rest
  | args => args

/-- The shell of a program that gets other variables, and the words that call the program; or the
shell after the arguments were refused. -/
def environmentFor (args : List Text) (s : Shell) : Except Shell (Shell × List (Char × Text) ×
    List Text) :=
  match environmentUsage.splitFrom true (splitString args) with
  | .error said => .error ((s.misuse said).withStatus 125)
  | .ok (options, words) =>
    let (isEmpty, words) :=
      match words with
      | ['-'] :: rest => (true, rest)
      | words => (isGiven 'i' options, words)
    let s := if isEmpty then { s with bindings := [], exported := [] } else s
    let s := options.foldl (fun s (letter, name) =>
      if letter = 'u' then { s with bindings := s.bindings.unset name } else s) s
    let isAssignment := fun word : Text => '=' ∈ word
    let s := (words.takeWhile isAssignment).foldl (fun s word =>
      let (name, value) := splitAssignment word
      { s with
        bindings := s.bindings.set name (value.getD [])
        exported := name :: s.exported }) s
    .ok (s, options, words.dropWhile isAssignment)

/-- Why a program cannot be started, as its status tells. -/
def startStatus (fault : IoFault) : Nat :=
  match fault with
  | .notFound | .notDirectory | .tooManyLinks => 127
  | _ => 126

/-- The program that takes the place of one that only changes what is known at the start; what is
said when there is none is its own matter. -/
def afterWrapper (start : Start) : Run (Option Start) := do
  let s ← get
  let found := fun (s : Shell) (name : Text) (args : List Text) =>
    startFor (fun p => startOrText s.files (fun _ => true) p name args)
      ((s.bindings.get? "PATH".toList).getD ordinarySearch) name
  let refuse := fun (s : Shell) (fault : IoFault) (lead : Text) =>
    (s.say (lead ++ fault.reason)).withStatus (startStatus fault)
  match String.ofList start.program with
  | "env" =>
    match environmentFor start.args s with
    | .error s =>
      set s
      return none
    | .ok (s, options, []) =>
      set s
      Run.print (s.environmentText (if isGiven '0' options then '\x00' else '\n'))
      return none
    | .ok (s, _, name :: args) =>
      match found s name args with
      | .ok next =>
        set s
        return some next
      | .error fault =>
        let s := refuse s fault (inCurlyQuotes name ++ ": ".toList)
        set (if fault = .notFound && name.any (fun c => c = ' ' || c = '\t') then
          s.say "use -[v]S to pass options in shebang lines".toList else s)
        return none
  | _ =>
    let usage : Usage := ⟨"", if start.program = "nice".toList then "n" else "", [("adjustment", 'n')]⟩
    match usage.splitFrom true start.args with
    | .error said =>
      set (s.misuseWith 125 said)
      return none
    | .ok (_, []) =>
      if start.program = "nice".toList then Run.print "0\n".toList
      else set (s.misuseWith 125 "missing operand".toList)
      return none
    | .ok (_, name :: args) =>
      match found s name args with
      | .ok next => return some next
      | .error fault =>
        let lead := inCurlyQuotes name ++ ": ".toList
        set (refuse s fault
          (if start.program = "nice".toList then lead else "failed to run command ".toList ++ lead))
        return none

/-- Carry out a program in the shell that is there for it. -/
def launch : (fuel : Nat) → Start → Run Unit
  | fuel, start => do
    modify fun s => { s with name := start.name }
    if start.program ∈ shellNames then startShell again start.args
    else
      match utilities.lookup start.program, fuel with
      | some act, _ =>
        act start.args
        Run.pass 0
      | none, 0 => modify (·.withStatus 125)
      | none, fuel + 1 =>
        match ← afterWrapper start with
        | some next => launch fuel next
        | none => return

/-- How many programs in a row may take each other's place. -/
def launchLimit : Nat := 64

/-- What a shell says of a program that it cannot start. -/
def startText (fault : IoFault) : Text :=
  match fault with
  | .notFound | .notDirectory => "not found".toList
  | fault => fault.reason

/-- Carry out the program at a path as a process of its own, or in the place of the shell. -/
def carryOutPath (inPlace : Bool) (p name : Text) (args : List Text) : Run Unit := do
  let s ← get
  match startOrText s.files beginsAsText p name args with
  | .error fault =>
    set ((s.complain (name ++ ": ".toList ++ startText fault)).withStatus (startStatus fault))
  | .ok start =>
    if inPlace then
      set s.child.publish
      launch again launchLimit start
      modify fun t => if t.goes || t.flow = .broken then { t with flow := .quit } else t
    else Run.carryOutProgram start Shell.child

/-- Call a program by its name, which is looked for in the directories of a search path. -/
def call (search : Option Text) (name : Text) (args : List Text) : Run Unit := do
  Run.pass Shell.startTime
  let s ← get
  if !s.goes then return
  let inPlace := s.alone
  if '/' ∈ name then carryOutPath again inPlace name name args
  else
    let found :=
      match search with
      | some search => s.firstProgram .notFound (programPaths search name)
      | none => s.programPath? name
    match found with
    | .ok p =>
      if search.isNone then set (s.remember name p)
      carryOutPath again inPlace p name args
    | .error fault =>
      set ((s.complain (name ++ ": ".toList ++ startText fault)).withStatus 127)

/-- Carry out a program in the place of the shell, which ends in any case. -/
def replace (name : Text) (args : List Text) : Run Unit := do
  Run.pass Shell.startTime
  let s ← get
  if !s.goes then return
  let start := fun p => startOrText s.files beginsAsText p name args
  match startFor start s.search name with
  | .ok _ =>
    let paths := if '/' ∈ name then [name] else programPaths s.search name
    let p := (paths.find? fun p => (start p).toOption.isSome).getD name
    carryOutPath again true p name args
  | .error fault =>
    set ((s.complain (name ++ ": ".toList ++ startText fault)).quit (startStatus fault))

end NameTables.Script
