import NameTables.Script.Options

/-!
# Commands that handle and send signals

A shell may be told what to do on a signal, and may send signals to processes, itself among them.

## Main definitions

* `Shell.setTraps` — what is to be done on signals.
* `Shell.send` — signals for processes.
-/

namespace NameTables.Script

namespace Shell

/-- Set what is to be done on signals, or forget it if there is no action. -/
def trapAll (s : Shell) (action : Option Text) : List Text → Shell
  | [] => s
  | word :: rest =>
    match signalNumber? word with
    | none => (s.write 2 ("trap: ".toList ++ word ++ ": bad trap\n".toList)).withStatus 1
    | some n =>
      let others := s.traps.filter (·.1 != n)
      let s := { s with
        traps := match action with
          | some action => (n, action) :: others
          | none => others }
      s.trapAll action rest

/-- Set what is to be done on signals, or print what has been set.  A first word that is a number is
a signal, and so is one that stands alone; a hyphen is no action. -/
def setTraps (s : Shell) (args : List Text) : Shell :=
  match optionsIn [] [] args with
  | .error said => s.abort said
  | .ok (_, []) =>
    let numbers := (List.range (freeSignals.2 + 1)).filter fun n => s.traps.any (·.1 == n)
    let line := fun n : Nat =>
      let action := ((s.traps.find? (·.1 == n)).map Prod.snd).getD []
      "trap -- ".toList ++ inQuoteMarks action ++ ' ' :: signalName n ++ ['\n']
    (s.withStatus 0).tell (numbers.flatMap line)
  | .ok (_, action :: words) =>
    let isNumber := action.all Char.isDigit && (signalNumber? action).isSome
    if words.isEmpty || isNumber then (s.withStatus 0).trapAll none (action :: words)
    else (s.withStatus 0).trapAll (if action = ['-'] then none else some action) words

/-- The signal that a word tells where one is sent; the end of the shell cannot be sent. -/
def sendable? (word : Text) : Option Nat :=
  match signalNumber? word with
  | some 0 => if word.all Char.isDigit then some 0 else none
  | found => found

/-- Is there a process with the number?  The first one of the system always is. -/
def hasProcess (s : Shell) (number : Nat) : Bool :=
  number = 1 || number = s.number || number = s.root || number = s.parent || s.running.any (·.1 == number)

/-- Send a signal to a process that a word tells.  One in the background is told by its place as the
leader of a group of processes, which it is not. -/
def sendTo (s : Shell) (signal : Nat) (word : Text) : Shell :=
  let refuse := (s.complain "No such process\n".toList).withStatus 1
  let deliver := fun number : Nat =>
    if s.hasProcess number then { s with sent := s.sent ++ [(number, signal)] } else refuse
  match s.jobAt? word, word with
  | some _, _ => refuse
  | none, '%' :: _ => s.abort (noJobText word)
  | none, word =>
    match numberIn? true word with
    | some n => deliver n.natAbs
    | none => s.abort ("Illegal number: ".toList ++ word)

/-- What is said about the use of the command. -/
def sendingUsage : Text :=
  ("Usage: kill [-s sigspec | -signum | -sigspec] [pid | job]... or\n"
    ++ "kill -l [exitstatus]").toList

/-- Print the names of the signals, or of the one that has ended a process with a status. -/
def tellSignals (s : Shell) : List Text → Shell
  | [] =>
    let name := fun n : Nat => if n = 0 then ['0'] else signalName n
    s.tell ((List.range (freeSignals.2 + 1)).flatMap fun n => name n ++ ['\n'])
  | word :: _ =>
    match digitsValue? 10 word with
    | none => s.abort ("Illegal number: ".toList ++ word)
    | some n =>
      let n := if 128 < n then n - 128 else n
      if 0 < n && n ≤ freeSignals.2 then s.tell (signalName n ++ ['\n'])
      else s.abort ("invalid signal number or exit status: ".toList ++ word)

/-- Send a signal to processes, or tell about signals. -/
def send (s : Shell) (args : List Text) : Shell :=
  let s := s.withStatus 0
  let sendAll := fun (signal : Nat) (words : List Text) =>
    if words.isEmpty then s.abort sendingUsage
    else words.foldl (fun s word => if s.goes then s.sendTo signal word else s) s
  let direct :=
    match args with
    | ('-' :: word) :: rest => (sendable? word).map (·, rest)
    | _ => none
  match direct with
  | some (signal, rest) => sendAll signal rest
  | none =>
    match optionsIn ['l'] ['s'] args with
    | .error said => s.abort said
    | .ok (options, words) =>
      let named := (options.filter (·.1 == 's')).getLast?.map Prod.snd
      match named with
      | some name =>
        match sendable? name with
        | none => s.abort ("invalid signal number or name: ".toList ++ name)
        | some signal =>
          if isGiven 'l' options then s.tellSignals words else sendAll signal words
      | none =>
        if isGiven 'l' options then s.tellSignals words else sendAll usualSignal words

end Shell

end NameTables.Script
