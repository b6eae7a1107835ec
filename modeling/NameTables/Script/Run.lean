import NameTables.Script.Start

/-!
# Carrying out scripts

A command is carried out by recursion on its form.  Two things lead out of that form: a loop, which
ends at the latest when the shell's time is over, and the call of another script, of a function or
of a text, which is limited in depth.

## Main definitions

* `dispatch` — what the words of a command do.
* `run` — what a command does, given what called commands do.
* `carryOut` — what a command does.
* `carryOutApart` — what a command does in the background.
-/

namespace NameTables.Script

namespace Shell

/-- Whether a loop goes on after its condition or body, and the shell behind it: a break out of
several loops has one less to leave. -/
def afterBody (s : Shell) : Bool × Shell :=
  match s.flow with
  | .go => (true, s)
  | .leave (n + 2) => (false, { s with flow := .leave (n + 1) })
  | .leave _ => (false, { s with flow := .go })
  | .again 0 => (true, { s with flow := .go })
  | .again (n + 1) => (false, { s with flow := .again n })
  | _ => (false, s)

/-- The shell in a condition, where failures do not end it. -/
def guard (s : Shell) : Shell := { s with guarded := s.guarded + 1 }

/-- The shell behind a condition. -/
def unguard (s : Shell) : Shell := { s with guarded := s.guarded - 1 }

/-- The shell in a loop. -/
def enterLoop (s : Shell) : Shell := { s with loops := s.loops + 1 }

/-- The shell behind a loop. -/
def exitLoop (s : Shell) : Shell := { s with loops := s.loops - 1 }

/-- End a shell with the option for it after a failure outside conditions. -/
def heed (s : Shell) : Shell :=
  if s.has 'e' && s.guarded = 0 && s.status ≠ 0 && s.goes then { s with flow := .quit } else s

/-- Set variables back to what they were in an earlier shell. -/
def setBack (s earlier : Shell) (values : Variables) : Shell :=
  let names := values.map Prod.fst
  { s with
    bindings := names.foldl (fun vs name =>
      match earlier.bindings.get? name with
      | some value => vs.set name value
      | none => vs.unset name) s.bindings
    exported := s.exported.filter fun name => name ∉ names || name ∈ earlier.exported }

/-- Tell what is carried out, if the option for that is set. -/
def trace (s : Shell) (values : Variables) (words : List Text) : Shell :=
  if s.has 'x' then
    let assigned := values.map fun (name, value) => name ++ '=' :: value
    let lead := (s.bindings.get? "PS4".toList).getD []
    s.write 2 (lead ++ Text.join [' '] (assigned ++ words) ++ ['\n'])
  else s

/-- The number of the process in the background that a word tells, by its number or its place; there
may be none with the number. -/
def jobOf (s : Shell) (word : Text) : Except Text (Option Nat) :=
  match s.jobAt? word, word with
  | some j, _ => .ok (some j.number)
  | none, '%' :: _ => .error (noJobText word)
  | none, word =>
    match digitsValue? 10 word with
    | some number => .ok (if s.jobs.any (·.number = number) then some number else none)
    | none => .error ("Illegal number: ".toList ++ word)

end Shell

variable (again : Command → Run Unit)

/-! ### Commands that call others -/

/-- Carry out a command of the shell under its name.  Unless it is `special`, what goes wrong does
not end the shell. -/
def underName (name : Text) (special : Bool) (step : Run Unit) : Run Unit := do
  let s ← get
  set { s with speaker := some name }
  step
  modify fun t => { t with
    speaker := s.speaker
    flow := if t.flow = .broken && !special then .go else t.flow }

/-- Carry out a text that is given as words. -/
def carryOutWords (words : List Text) : Run Unit :=
  carryOutText again 1 (Text.join [' '] words)

/-- Carry out the text in a file, which without a slash in its name is looked for as programs
are. -/
def carryOutFile (special : Bool) (name : Text) : Run Unit := do
  let s ← get
  let isText := fun p : Text =>
    match s.files.nodeAt? (Shell.path p) with
    | some (.file _) => true
    | _ => false
  let found := if '/' ∈ name then some name else (programPaths s.search name).find? isText
  match found with
  | none => modify fun s => s.abort (name ++ ": not found".toList)
  | some p =>
    match ← Run.contentOf (if p = ['-'] then "./-".toList else p) with
    | .error fault =>
      if fault = .isDirectory then modify (·.withStatus 0)
      else set (s.complainOf false p fault).breakOff
    | .ok content =>
      underName p special do
        carryOutText again 1 content
        modify fun t => if t.flow = .back then { t with flow := .go } else t

/-- Wait for a process in the background; a signal ends the waiting.  What has ended the process is
told if the shell has not noticed its end before. -/
def awaitJob (number : Nat) : Run Unit := do
  Run.await fun s => (s.endedStatus? number).isSome || !s.pending.isEmpty
  modify fun s =>
    match s.endedStatus? number, s.pending with
    | some status, _ =>
      let said := ((s.killed.find? (·.1 == number)).map fun entry => signalText entry.2).getD []
      let told := if said.isEmpty || number ∈ s.noticed then s else s.write 2 (said ++ ['\n'])
      (told.notice.withStatus status).markAwaited [number]
    | none, signal :: _ => s.withStatus (Shell.killedStatus signal)
    | none, [] => s

/-- Wait for processes in the background. -/
def awaitJobs : List Text → Run Unit
  | [] => return
  | word :: rest => do
    match (← get).jobOf word with
    | .error said => modify (·.abort said)
    | .ok none => modify (·.withStatus 127)
    | .ok (some number) => awaitJob number
    if ← Run.goes then awaitJobs rest

/-- Wait for the processes in the background that are told, or for all of them. -/
def awaitAll (args : List Text) : Run Unit := do
  match optionsIn [] [] args with
  | .error said => modify (·.abort said)
  | .ok (_, []) =>
    Run.await fun s => s.jobs.all (fun j => (s.endedStatus? j.number).isSome)
      || !s.pending.isEmpty
    modify fun s =>
      match s.pending with
      | signal :: _ => s.withStatus (Shell.killedStatus signal)
      | [] => (s.notice.withStatus 0).markAwaited (s.jobs.map Job.number)
  | .ok (_, words) => awaitJobs words

/-- Carry out a command of the shell. -/
def carryOutBuiltin (special : Bool) (name : Text) (args : List Text) : Run Unit :=
  match String.ofList name, args with
  | "eval", args => underName name special (carryOutWords again args)
  | ".", [] => modify (·.withStatus 0)
  | ".", ['-', '-'] :: file :: _ => underName name special (carryOutFile again special file)
  | ".", file :: _ => underName name special (carryOutFile again special file)
  | "exec", [] => modify (·.withStatus 0)
  | "exec", program :: args => underName name special (replace again program args)
  | "wait", args => underName name special (awaitAll args)
  | "read", args => underName name special (Shell.readLine args)
  | _, args =>
    match Shell.builtin? name with
    | some act => underName name special (modify (act args))
    | none => modify (·.withStatus 0)

/-- How many functions may call each other. -/
def callLimit : Nat := 1000

/-- Call a function. -/
def callFunction (body : Command) (args : List Text) : Run Unit := do
  let s ← get
  if callLimit ≤ s.calls then
    set (s.abort ("Maximum function recursion depth (".toList ++ Text.ofNat callLimit
      ++ ") reached".toList))
    return
  set { s with
    args
    locals := some []
    loops := 0
    optionAt := (1, 0)
    calls := s.calls + 1
    alone := false }
  again body
  modify fun inner => { inner.leaveLocals s.locals with
    args := s.args
    loops := s.loops
    optionAt := s.optionAt
    calls := s.calls
    flow := if inner.flow = .back then .go else inner.flow }

/-- How a command is looked up. -/
structure Lookup where
  /-- Are functions passed over, and is no command of the shell special? -/
  plain : Bool
  /-- The directories in which programs are looked for, if they are others than usual. -/
  search : Option Text
  /-- The words of the command. -/
  words : List Text

/-- The words of a command without the word `command` and its options in front, unless it is to tell
what something stands for or has an option that there is none. -/
def lookupOf : (fuel : Nat) → Lookup → Lookup
  | 0, l => l
  | fuel + 1, l =>
    match l.words with
    | word :: args =>
      if word ≠ "command".toList then l
      else
        match optionsIn ['p', 'v', 'V'] [] args with
        | .error _ => l
        | .ok (_, []) => l
        | .ok (options, rest) =>
          if isGiven 'v' options || isGiven 'V' options then l
          else
            lookupOf fuel
              ⟨true, if isGiven 'p' options then some ordinarySearch else l.search, rest⟩
    | [] => l

/-- Tell what a name stands for, in short or in words. -/
def tellMeaning (args : List Text) (s : Shell) : Shell :=
  match optionsIn ['p', 'v', 'V'] [] args with
  | .error said => s.abort said
  | .ok (_, []) => s.withStatus 0
  | .ok (options, name :: _) =>
    let (text, found) := s.meaningText (!isGiven 'V' options) name
    ((s.withStatus (if found then 0 else 127)).withMeaning name).tell text

/-- Carry out a command by its words. -/
def dispatch (words : List Text) : Run Unit := do
  let s ← get
  let l := lookupOf words.length ⟨false, none, words⟩
  match l.words with
  | [] => return
  | name :: args =>
    let function := (s.functions.find? (·.1 == name)).map Prod.snd
    match isSpecial name, if l.plain then none else function with
    | true, _ => carryOutBuiltin again (!l.plain) name args
    | false, some body => callFunction again body args
    | false, none =>
      if name = "command".toList then
        underName name false (modify (tellMeaning args))
      else if name ∈ ordinaryNames then carryOutBuiltin again false name args
      else call again l.search name args

/-- Do the words begin with a command that declares variables? -/
def declares (words : List Text) : Bool :=
  match (lookupOf words.length ⟨false, none, words⟩).words with
  | name :: _ =>
    name ∈ ["alias".toList, "export".toList, "local".toList, "readonly".toList]
  | [] => false

/-- Do the words only change where the shell's descriptors lead? -/
def keepsChannels (words : List Text) : Bool :=
  (lookupOf words.length ⟨false, none, words⟩).words = ["exec".toList]

/-- The values of a calculation's variables in the shell; fixed ones cannot get others. -/
def Shell.withBindings (s : Shell) (bindings : Variables) : Shell :=
  match bindings.find? fun v => v.1 ∈ s.fixed && s.bindings.get? v.1 ≠ some v.2 with
  | some (name, _) => s.abort (name ++ ": is read only".toList)
  | none => { s with bindings }

/-- Take a step in a condition, where failures do not end the shell. -/
def guarded (step : Run Unit) : Run Unit := do
  modify Shell.guard
  step
  modify Shell.unguard

/-- Take a step for each value, as long as it asks for more. -/
def forEach (step : Text → Run Bool) : List Text → Run Unit
  | [] => return
  | value :: rest => do
    if ← step value then forEach step rest

mutual

/-- The glyphs of a word. -/
def expand (role : Role) : Word → Run (List Glyph)
  | .nil => return []
  | .char c quoted rest => do return .char c quoted :: (← expand role rest)
  | .quotes rest => do return .quotes :: (← expand role rest)
  | .home user assigned rest => do
    let first := (← get).homeGlyphs role user assigned
    return first ++ (← expand role rest)
  | .value name edit operand quoted rest => do
    let s ← get
    if !s.goes then return []
    let operandGlyphs ←
      if edit.usesOperand (s.parameter? name) then expand (edit.operandRole role) operand
      else pure []
    if !(← Run.goes) then return []
    let (first, s) := (← get).glyphsOf role name edit operandGlyphs quoted
    set s
    return first ++ (← expand role rest)
  | .output c quoted rest => do
    if !(← Run.goes) then return []
    let output ← Run.capture c
    modify fun s => { s with substituted := true }
    let kept := ((output.filter (· ≠ '\x00')).reverse.dropWhile (· = '\n')).reverse
    return glyphs quoted kept ++ (← expand role rest)
  | .number e quoted rest => do
    let expression := textOf (fieldOf (← expand .text e))
    let s ← get
    if !s.goes then return []
    match evaluate s.bindings expression with
    | .ok (n, bindings) =>
      set (s.withBindings bindings)
      return glyphs quoted (Text.ofInt n) ++ (← expand role rest)
    | .error fault =>
      set (s.abort (fault.message expression))
      return []

/-- The words that words expand to, behind those that were `found`, of which the last one comes
first.  Words that declare a variable with its value, as arguments of a command for that, are not
cut apart. -/
def expandAll (declaring : Bool) : (found : List Text) → Words → Run (List Text)
  | found, .nil => return found.reverse
  | found, .cons w rest => do
    if declaring && w.assigned?.isSome && declares found.reverse then
      let value := textOf (fieldOf (← expand .value w))
      expandAll declaring (value :: found) rest
    else
      let gs ← expand .words w
      let s ← get
      let names := (fieldsOf s.separators gs).flatMap s.pathnames
      expandAll declaring (names.reverse ++ found) rest

/-- The values of assignments, which are made in order. -/
def expandValues : Assignments → Run Variables
  | .nil => return []
  | .cons name w rest => do
    let value := textOf (fieldOf (← expand .value w))
    if !(← Run.goes) then return []
    modify (·.setVariable name value)
    return (name, value) :: (← expandValues rest)

/-- Wait until somebody is at the other end of a pipe with a name that a redirection has opened. -/
def awaitPartner (descriptor : Nat) (r : Redirection) (name : Text) : Run Unit := do
  let s ← get
  match s.files.nodeAt? (Shell.path name), r with
  | some (.pipe _), .input =>
    match s.channel? descriptor with
    | some id => Run.await fun s => s.isOver || s.toScene.isWritten id
    | none => return
  | some (.pipe number), .output _ | some (.pipe number), .append =>
    Run.await fun s => s.isOver || s.toScene.hasReader number
    Run.rest
  | _, _ => return

/-- Make redirections: whether all succeed. -/
def redirectAll : Redirections → Run Bool
  | .nil => return true
  | .cons descriptor r w rest => do
    let name := textOf (fieldOf (← expand .text w))
    if !(← Run.goes) then
      -- what goes wrong in a text is as if it could not be opened
      modify fun s => if r = .here && s.flow = .broken then { s with flow := .go } else s
      return false
    let (made, s) := (← get).redirect descriptor r name
    set s
    if made then
      awaitPartner descriptor r name
      redirectAll rest
    else return false

/-- Does one of these patterns match? -/
def matchesAny : Words → Text → Run Bool
  | .nil, _ => return false
  | .cons w rest, text => do
    let pattern := atoms (fieldOf (← expand .text w))
    if matchesAll pattern text then return true else matchesAny rest text

/-- Carry out the first arm that matches. -/
def runArms : Arms → Text → Run Unit
  | .nil, _ => modify (·.withStatus 0)
  | .cons patterns body rest, text => do
    let found ← matchesAny patterns text
    if !(← Run.goes) then return
    if found then
      modify (·.withStatus 0)
      run body
    else runArms rest text

/-- Carry out a command. -/
def run : Command → Run Unit
  | .skip => return
  | .simple line assignments words redirections => do
    if !(← Run.goes) || (← get).has 'n' then return
    Run.pass Shell.stepTime
    modify fun s => { s with line, substituted := false }
    let words ← expandAll true [] words
    let before ← get
    if !before.goes then return
    modify Shell.pushFrame
    let made ← redirectAll redirections
    if !made then
      let special := isSpecial (words.head?.getD [])
      modify fun s =>
        let s := s.popFrame
        if special && s.goes then s.breakOff else s.heed
    else
      let values ← expandValues assignments
      if ← Run.goes then
        modify fun s =>
          { { s with channels := before.channels }.trace values words with channels := s.channels }
        if words.isEmpty then
          modify fun s => if s.substituted then s else s.withStatus 0
        else
          modify fun s => { s with exported := values.map Prod.fst ++ s.exported }
          dispatch again words
          if !isSpecial (words.head?.getD []) then modify (·.setBack before values)
          Run.makeRoom
      if keepsChannels words then
        modify Shell.dropFrame
        Run.rest
      else modify Shell.popFrame
      takeSignals again
      modify Shell.heed
  | .seq a b => do
    run a
    if ← Run.goes then run b
  | .both a b => do
    guarded (run a)
    let s ← get
    if s.goes && s.status = 0 then run b
  | .either a b => do
    guarded (run a)
    let s ← get
    if s.goes && s.status ≠ 0 then run b
  | .negate a => do
    guarded (run a)
    modify fun s => if s.goes then s.ofTest (s.status ≠ 0) else s
  | .pipe a b => do
    if ← Run.goes then
      Run.pipeline (a :: b.row)
      takeSignals again
      modify Shell.heed
  | .branch condition yes no => do
    guarded (run condition)
    let s ← get
    if !s.goes then return
    if s.status = 0 then run yes
    else
      -- a condition that fails without another branch is no failure
      if no.isSkip then modify (·.withStatus 0)
      run no
  | .loop ending condition body => do
    if !(← Run.goes) then return
    modify Shell.enterLoop
    let step := fun status => do
      guarded (run condition)
      let s ← get
      if !s.goes then
        let (more, s) := s.afterBody
        set (s.withStatus (if s.goes then status else s.status))
        return if more then some status else none
      else if (s.status = 0) == ending then
        set (s.withStatus status)
        return none
      else
        run body
        let (more, s) := (← get).afterBody
        set s
        return if more then some s.status else none
    repeatWhile step (← get).stepsLeft 0
    modify Shell.exitLoop
  | .each name args words body => do
    if !(← Run.goes) then return
    let listed ← expandAll false [] words
    let s ← get
    if !s.goes then return
    set (s.withStatus 0).enterLoop
    let step := fun value => do
      Run.pass Shell.stepTime
      modify (·.setVariable name value)
      if ← Run.goes then run body
      let (more, s) := (← get).afterBody
      set s
      return more
    forEach step (if args then s.args else listed)
    modify Shell.exitLoop
  | .choose w arms => do
    if !(← Run.goes) then return
    let text := textOf (fieldOf (← expand .text w))
    if ← Run.goes then runArms arms text
  | .redirected line c redirections => do
    if !(← Run.goes) then return
    if redirections.isEmpty then run c
    else
      modify fun s => { s with line }
      modify Shell.pushFrame
      if ← redirectAll redirections then
        run c
        modify Shell.popFrame
      else modify fun s => s.popFrame.heed
  | .apart c => do
    if !(← Run.goes) then return
    Run.apart c
    takeSignals again
    modify Shell.heed
  | .background c => do
    if ← Run.goes then Run.fork c.row
  | .define name body =>
    modify fun s => { s with functions := (name, body) :: s.functions, status := 0 }

end

/-- A shell that calls more texts than it can keep in mind is ended by a signal. -/
def tooDeep : Run Unit := modify fun s => { s with flow := .killed 11 }

/-- Carry out a command that may call others, so many levels deep. -/
def carryOutAt : (depth : Nat) → Command → Run Unit
  | 0, _ => tooDeep
  | depth + 1, c => run (carryOutAt depth) c

/-- How many levels deep commands may call others. -/
def depthLimit : Nat := 1200

/-- Carry out a command. -/
def carryOut : Command → Run Unit := carryOutAt depthLimit

/-- What a process carries out that is there for a command: of a shell of its own, what is in it. -/
def bodyOf : Command → Command
  | .apart c => c
  | c => c

/-- Carry out a command as a process of its own, which does nothing else. -/
def carryOutApart (c : Command) : Run Unit := do
  match c with
  | .redirected line c redirections =>
    modify fun s => { s with line }
    if ← redirectAll carryOut redirections then
      Run.rest
      carryOut (bodyOf c)
  | .simple .. =>
    modify fun s => { s with alone := true }
    carryOut c
  | c => carryOut (bodyOf c)
  finish carryOut

/-- Do what a process is there for. -/
def carryOutErrand : Errand → Run Unit
  | .command c => carryOutApart c
  | .program start => launch carryOut launchLimit start

end NameTables.Script
