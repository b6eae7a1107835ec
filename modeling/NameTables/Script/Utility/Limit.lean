import NameTables.Script.Interpreter
import NameTables.Script.Utility.Words

/-!
# A limited time for a program

The program that starts another one and sends it a signal when it has not ended in time.

## Main definitions

* `Limit` — how long a program may take, and what comes then.
* `Limit.await` — wait for the end, or for the end of the time.
* `carryOutInTime` — the program.
-/

namespace NameTables.Script.Utility

/-- How long a program may take, and what comes then. -/
structure Limit where
  /-- The time, in nanoseconds; for zero there is no limit. -/
  time : Nat
  /-- The signal that is sent when it is over. -/
  signal : Nat
  /-- The time after that until the signal comes that cannot be caught. -/
  grace : Option Nat
  /-- Is only the program itself told? -/
  alone : Bool
  /-- Does the program's own status count in any case? -/
  keepsStatus : Bool
  /-- Is said what is sent? -/
  tells : Bool

namespace Limit

/-- How often it is looked whether the program has ended. -/
def interval : Nat := 1000000

/-- Wait until a process has ended or the time is over; tell whether it has ended. -/
def await (number deadline : Nat) : (fuel : Nat) → Run Bool
  | 0 => return false
  | fuel + 1 => do
    let s ← get
    if s.isOver || s.ended.any (·.1 == number) then return true
    else if deadline ≤ s.clock then return false
    else
      Run.pass (min interval (deadline - s.clock))
      Run.rest
      await number deadline fuel

/-- Send a signal to a process and to those that were started after it. -/
def send (l : Limit) (number signal : Nat) (name : Text) : Run Unit := do
  if l.tells then
    Run.say ("sending signal ".toList ++ signalName signal ++ " to command ".toList
      ++ inCurlyQuotes name)
  modify fun s =>
    let told := (s.running.map Prod.fst).filter fun n => n = number || (!l.alone && number < n)
    { s with sent := s.sent ++ told.map fun n => (n, signal) }
  Run.rest

/-- Wait for a process, and send it what it gets when it takes too long; tell whether that has
happened, and whether the last signal was the one that cannot be caught. -/
def watch (l : Limit) (number : Nat) (name : Text) : Run (Bool × Bool) := do
  let waitFor := fun (time : Nat) => do
    await number ((← get).clock + time) (time / interval + 2)
  if l.time = 0 then
    Run.awaitEnd number
    return (false, false)
  else if ← waitFor l.time then return (false, false)
  else
    l.send number l.signal name
    match l.grace with
    | none =>
      Run.awaitEnd number
      return (true, l.signal = killSignal)
    | some grace =>
      if ← waitFor grace then return (true, l.signal = killSignal)
      else
        l.send number killSignal name
        Run.awaitEnd number
        return (true, true)

end Limit

/-- Carry out a program, and end it when it takes too long. -/
def carryOutInTime : Utility := fun args => do
  let usage : Usage :=
    ⟨"v\x01\x02", "ks", [("foreground", '\x01'), ("kill-after", 'k'), ("preserve-status", '\x02'),
      ("signal", 's'), ("verbose", 'v')]⟩
  let refuse := fun said : Text => modify (·.misuseWith 125 said)
  let badTime := fun word : Text =>
    refuse ("invalid time interval ".toList ++ inCurlyQuotes word)
  match usage.splitFrom true args with
  | .error said => refuse said
  | .ok (options, operands) =>
    let word := (wordOf? 's' options).getD "TERM".toList
    let trimmed := (Text.dropLead? "SIG".toList word).getD word
    let grace := (wordOf? 'k' options).map fun w => (w, timeIn? w)
    match signalNumber? trimmed, grace, operands with
    | none, _, _ => refuse (inCurlyQuotes word ++ ": invalid signal".toList)
    | _, some (w, none), _ => badTime w
    | some signal, grace, time :: name :: words =>
      match timeIn? time with
      | none => badTime time
      | some n =>
        let l : Limit :=
          ⟨n, signal, grace.bind Prod.snd, isGiven '\x01' options, isGiven '\x02' options,
            isGiven 'v' options⟩
        match ← Run.startProgram id name words with
        | .error fault =>
          modify (·.failWith (if fault = .notFound then 127 else 126)
            ("failed to run command ".toList ++ inCurlyQuotes name ++ ": ".toList ++ fault.reason))
        | .ok number =>
          let (late, hard) ← l.watch number name
          Run.pass Shell.wakeTime
          let s ← get
          if late && hard && !l.alone then set { s with flow := .killed killSignal }
          else
            match s.endingOf number, late with
            | .killed signal, false => set { s with flow := .killed signal }
            | .killed signal, true =>
              let own := l.keepsStatus || signal = killSignal
              set (s.withStatus (if own then Shell.killedStatus signal else 124))
            | .exited status, late =>
              set (s.withStatus (if late && !l.keepsStatus then 124 else status))
    | _, _, _ => modify fun s => s.hint.withStatus 125

end NameTables.Script.Utility
