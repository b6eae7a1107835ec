import NameTables.Job

/-!
# Tools

The outside world of external programs enters as one function: it tells, for each call and each
state of the files, how the call ends and what it has done to the files.  Nothing else is known
about programs, so whatever is proved holds of all of them.

## Main definitions

* `Call`, `Reply` — what is asked of a program and what comes of it.
* `Tools` — the external programs.
* `Tools.run` — a call as a job; a program that cannot be used is a failure.
-/

namespace NameTables

/-- A call of a program. -/
structure Call where
  /-- The program, a path or a name to be looked up. -/
  program : Path
  /-- Its arguments. -/
  args : List Text
  /-- The time it has. -/
  limit : Duration
  deriving DecidableEq, Repr

/-- What a program that has ended leaves. -/
structure Ended where
  /-- Its exit code, unless a signal has ended it. -/
  code : Option Nat
  /-- What it wrote to standard output. -/
  output : Bytes
  /-- What it wrote to standard error. -/
  complaint : Bytes
  deriving DecidableEq, Repr

/-- Did the program succeed? -/
def Ended.succeeded (e : Ended) : Bool := e.code = some 0

/-- What comes of a call. -/
inductive Reply
  /-- The program cannot be started. -/
  | notStarted (fault : IoFault)
  /-- It has not ended within the limit. -/
  | timedOut
  /-- The system cannot tell whether it has ended. -/
  | lost (fault : IoFault)
  /-- It has ended. -/
  | ended (e : Ended)
  deriving DecidableEq, Repr

/-- The external programs. -/
def Tools := Call → Files → Reply × Files

namespace Reply

/-- The result of a call with this reply. -/
def result (call : Call) : Reply → Except Failure Ended
  | .notStarted fault => .error (.toolUnavailable (.cannotRun call.program.text fault))
  | .timedOut => .error (.toolUnavailable (.timedOut call.program.text call.limit))
  | .lost fault => .error (.io fault)
  | .ended e => .ok e

end Reply

/-- Call a program; what it leaves is the result. -/
def Tools.run (tools : Tools) (call : Call) : Job Ended := fun fs =>
  let (reply, fs) := tools call fs
  (reply.result call, fs)

/-- Tools of which none can be started. -/
def Tools.none : Tools := fun _ fs => (.notStarted .notFound, fs)

end NameTables
