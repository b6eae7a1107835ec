import NameTables.Script.Lookup
import NameTables.Script.Utility.Basic

/-!
# What surrounds a program

Who carries it out, on what kind of machine, and where programs are.  There is one user of the machine
who carries out programs, and all others are known by the file that lists them.

## Main definitions

* `Account`, `accounts` — the users.
* `tellIdentity`, `tellUser`, `tellGroups` — who carries out a program.
* `tellMachine`, `tellTerminal` — on what machine.
* `tellPrograms` — where programs are.
-/

namespace NameTables.Script.Utility

open Shell (path)

/-! ### Users -/

/-- A user or a group. -/
structure Account where
  /-- The name. -/
  name : Text
  /-- The number. -/
  number : Text
  /-- The number of the user's group. -/
  group : Text

/-- The user who carries out programs. -/
def ownAccount : Account := ⟨"root".toList, ['0'], ['0']⟩

/-- The users that a file lists. -/
def accounts (s : Shell) : List Account :=
  let lines := ((s.files.read (path "/etc/passwd".toList)).toOption.map ofBytes).getD []
  (splitAt (· = '\n') lines).filterMap fun line =>
    match splitAt (· = ':') line with
    | name :: _ :: number :: group :: _ => some ⟨name, number, group⟩
    | _ => none

/-- The name of a group with a number. -/
def groupName (s : Shell) (number : Text) : Text :=
  if number = "65534".toList then "nogroup".toList
  else (((accounts s).find? (·.number == number)).map Account.name).getD number

/-- Tell who carries out a program, or who a user is. -/
def tellIdentity : Utility :=
  Usage.program ⟨"aGgnruzZ", "", [("group", 'g'), ("groups", 'G'), ("name", 'n'), ("real", 'r'),
    ("user", 'u'), ("zero", 'z'), ("context", 'Z')]⟩ fun options names => do
    let s ← get
    let given := fun c => isGiven c options
    let chosen := ['u', 'g', 'G'].filter given
    let stop := if given 'z' then '\x00' else '\n'
    if chosen.length > 1 then
      Run.fail "cannot print \"only\" of more than one choice".toList
    else if chosen.isEmpty && (given 'n' || given 'r') then
      Run.fail "cannot print only names or real IDs in default format".toList
    else if chosen.isEmpty && given 'z' then
      Run.fail "option --zero not permitted in default format".toList
    else
      let known := accounts s
      let found := (if names.isEmpty then [ownAccount.name] else names).map fun name =>
        (name, if names.isEmpty then some ownAccount
          else known.find? fun a => a.name = name || a.number = name)
      for (name, account) in found do
        match account with
        | none => Run.fail (inCurlyQuotes name ++ ": no such user".toList)
        | some a =>
          let both := fun (number name : Text) => number ++ '(' :: name ++ [')']
          let group := groupName s a.group
          Run.print ((match chosen with
            | ['u'] => if given 'n' then a.name else a.number
            | _ :: _ => if given 'n' then group else a.group
            | [] => "uid=".toList ++ both a.number a.name ++ " gid=".toList ++ both a.group group
                ++ " groups=".toList ++ both a.group group) ++ [stop])

/-- Tell the name of the user who carries out a program. -/
def tellUser : Utility :=
  Usage.program ⟨"", "", []⟩ fun _ names => do
    match names with
    | [] => Run.print (ownAccount.name ++ ['\n'])
    | extra :: _ => modify (·.misuse ("extra operand ".toList ++ inCurlyQuotes extra))

/-- Tell the groups of users. -/
def tellGroups : Utility :=
  Usage.program ⟨"", "", []⟩ fun _ names => do
    let s ← get
    if names.isEmpty then Run.print (groupName s ownAccount.group ++ ['\n'])
    for name in names do
      match (accounts s).find? (·.name == name) with
      | some a => Run.print (name ++ " : ".toList ++ groupName s a.group ++ ['\n'])
      | none => Run.fail (inCurlyQuotes name ++ ": no such user".toList)

/-- Nobody has logged in. -/
def tellLogin : Utility :=
  Usage.program ⟨"", "", []⟩ fun _ _ => Run.fail "no login name".toList

/-! ### The machine -/

/-- The kind of processor. -/
def processorName : Text := "x86_64".toList

/-- Tell what machine this is. -/
def tellMachine : Utility :=
  Usage.program ⟨"asnrvmpio", "", [("all", 'a'), ("kernel-name", 's'), ("nodename", 'n'),
    ("kernel-release", 'r'), ("kernel-version", 'v'), ("machine", 'm'), ("processor", 'p'),
    ("hardware-platform", 'i'), ("operating-system", 'o')]⟩ fun options names => do
    match names with
    | extra :: _ => modify (·.misuse ("extra operand ".toList ++ inCurlyQuotes extra))
    | [] =>
      let part := fun c : Char => String.toList (match c with
        | 's' => "Linux"
        | 'n' => "localhost"
        | 'r' => "6.1.0"
        | 'v' => "#1 SMP"
        | 'o' => "GNU/Linux"
        | _ => "x86_64")
      let all := isGiven 'a' options
      let chosen := ['s', 'n', 'r', 'v', 'm', 'p', 'i', 'o'].filter fun c =>
        isGiven c options || (all && c ≠ 'p' && c ≠ 'i')
      let chosen := if chosen.isEmpty then ['s'] else chosen
      Run.print (Text.join [' '] (chosen.map part) ++ ['\n'])

/-- Tell the kind of processor. -/
def tellProcessor : Utility :=
  Usage.program ⟨"", "", []⟩ fun _ names => do
    match names with
    | extra :: _ => modify (·.misuse ("extra operand ".toList ++ inCurlyQuotes extra))
    | [] => Run.print (processorName ++ ['\n'])

/-- Tell the terminal that the input comes from, which is none. -/
def tellTerminal : Utility :=
  Usage.programOr ⟨"s", "", [("silent", 's'), ("quiet", 's')]⟩ 2 fun options names => do
    match names with
    | extra :: _ => modify (·.misuseWith 2 ("extra operand ".toList ++ inCurlyQuotes extra))
    | [] =>
      if !isGiven 's' options then Run.print "not a tty\n".toList
      modify (·.withStatus 1)

/-! ### Programs -/

/-- Is there a program at a path? -/
def isProgram (s : Shell) (p : Text) : Bool :=
  match s.files.nodeAt? (path p) with
  | some (.file number) => (s.files.state? number).any FileState.isExecutable
  | _ => false

/-- Tell where programs are. -/
def tellPrograms : Utility := fun args => do
  match optionsIn ['a', 's'] [] args with
  | .error said =>
    modify fun s => (s.write 2 (said ++ ['\n'])).withStatus 2
    Run.print "Usage: /usr/bin/which [-as] args\n".toList
  | .ok (options, names) =>
    let s ← get
    if names.isEmpty then modify (·.withStatus 1)
    for name in names do
      let search := (s.bindings.get? "PATH".toList).getD ordinarySearch
      let found := (programPaths search name).filter (isProgram s)
      let shown := if isGiven 'a' options then found else found.take 1
      if found.isEmpty then modify (·.withStatus 1)
      else if !isGiven 's' options then Run.print (shown.flatMap (· ++ ['\n']))

end NameTables.Script.Utility
