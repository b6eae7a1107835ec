import NameTables.Text.Basic

/-!
# Signals

The signals of a system by number and name, and what a shell says about a process that one of them
has ended.

## Main definitions

* `signalNames` — the names by number.
* `signalNumber?` — the number that a word tells.
* `signalWords`, `signalText` — what is said of a process that a signal has ended.
-/

namespace NameTables.Script

/-- The names of the usual signals, from the first one on; one has a number only. -/
def signalNames : List Text :=
  ["HUP", "INT", "QUIT", "ILL", "TRAP", "ABRT", "BUS", "FPE", "KILL", "USR1", "SEGV", "USR2",
    "PIPE", "ALRM", "TERM", "16", "CHLD", "CONT", "STOP", "TSTP", "TTIN", "TTOU", "URG",
    "XCPU", "XFSZ", "VTALRM", "PROF", "WINCH", "IO", "PWR", "SYS"].map String.toList

/-- The first and the last of the signals that have no meaning of their own. -/
def freeSignals : Nat × Nat := (34, 64)

/-- The signal that cannot be caught. -/
def killSignal : Nat := 9

/-- The signal that is sent when none is named. -/
def usualSignal : Nat := 15

/-- The signal that is sent when a process ends that the shell has started. -/
def childSignal : Nat := 17

/-- The name of a signal; the end of the shell counts as signal zero.  Those without meaning are
counted from both ends. -/
def signalName (n : Nat) : Text :=
  let (first, last) := freeSignals
  if n = 0 then "EXIT".toList
  else if n < first then (signalNames[n - 1]?).getD (Text.ofNat n)
  else if n = first then "RTMIN".toList
  else if n = last then "RTMAX".toList
  else if n ≤ (first + last) / 2 then "RTMIN+".toList ++ Text.ofNat (n - first)
  else "RTMAX-".toList ++ Text.ofNat (last - n)

/-- The number of the signal with a name, in whatever case it is written. -/
def signalNamed? (name : Text) : Option Nat :=
  (List.range (freeSignals.2 + 1)).find? fun n => signalName n = name.map Char.toUpper

/-- The number of the signal that a word tells, by its name or number. -/
def signalNumber? (word : Text) : Option Nat :=
  if !word.isEmpty && word.all Char.isDigit then
    let n := word.foldl (fun n c => n * 10 + (c.toNat - '0'.toNat)) 0
    if n ≤ freeSignals.2 then some n else none
  else signalNamed? word

/-- The signal that comes to a process when nobody reads what it writes. -/
def pipeSignal : Nat := 13

/-- Does a process that has not asked for the signal pass over it? -/
def isHarmless (n : Nat) : Bool := n ∈ [0, 17, 18, 23, 28]

/-- Does the signal only stop a process? -/
def stopsOnly (n : Nat) : Bool := n ∈ [19, 20, 21, 22]

/-- What a signal means. -/
def signalWords (n : Nat) : Text :=
  let said : String :=
    match n with
    | 1 => "Hangup"
    | 2 => "Interrupt"
    | 3 => "Quit"
    | 4 => "Illegal instruction"
    | 5 => "Trace/breakpoint trap"
    | 6 => "Aborted"
    | 7 => "Bus error"
    | 8 => "Floating point exception"
    | 9 => "Killed"
    | 10 => "User defined signal 1"
    | 11 => "Segmentation fault"
    | 12 => "User defined signal 2"
    | 13 => "Broken pipe"
    | 14 => "Alarm clock"
    | 15 => "Terminated"
    | 16 => "Stack fault"
    | 24 => "CPU time limit exceeded"
    | 25 => "File size limit exceeded"
    | 26 => "Virtual timer expired"
    | 27 => "Profiling timer expired"
    | 29 => "I/O possible"
    | 30 => "Power failure"
    | 31 => "Bad system call"
    | _ => ""
  if freeSignals.1 ≤ n then "Real-time signal ".toList ++ Text.ofNat (n - freeSignals.1)
  else said.toList

/-- What is said of a process that a signal has ended; of some nothing is. -/
def signalText (n : Nat) : Text := if n = 2 || n = pipeSignal then [] else signalWords n

end NameTables.Script
