import NameTables.Duration
import NameTables.Failure
import NameTables.Tool.Basic

/-!
# Waiting within a limit

A started program is asked again and again whether it has ended, with a pause between two
questions, until it has or its time is over.  A program that is not known to have ended is killed
and collected, so none is left behind.

The time at which the limit is over is reckoned before the first question.  The clock counts
seconds in a signed word of 64 bits, and for a limit that leads beyond it the reckoning breaks the
whole run off.  The program has been started by then, and nothing is done to it any more.

## Main definitions

* `Child` — a started program, as the answers it gives and the clock readings after them.
* `Act`, `Wait` — what is done to it, and how the waiting ends.
* `Ending.reply` — what comes of a call whose program has been waited for.
* `deadline?` — when a limit is over, if the clock can show it.
* `Child.wait` — the waiting.
-/

namespace NameTables

/-- The answer to the question whether a program has ended. -/
inductive Answer (σ : Type)
  /-- It has not. -/
  | running
  /-- It has, and this is how; with this answer it is collected. -/
  | ended (status : σ)
  /-- The system cannot tell. -/
  | failed (fault : IoFault)
  deriving DecidableEq, Repr

/-- The pause between two questions. -/
def pause : Duration := .ofMilliseconds 10

/-- The first time, in nanoseconds, that the clock cannot show. -/
def clockEnd : Nat := 9223372036854775808 * Duration.perSecond

/-- The time at which a limit is over that is set at a time, if the clock can show it. -/
def deadline? (start : Nat) (limit : Duration) : Option Nat :=
  if start + limit.nanoseconds < clockEnd then some (start + limit.nanoseconds) else none

/-- A started program: the answers it gives when it is asked for the first, second, … time, and
the times that the clock shows before the first question and after each. -/
structure Child (σ : Type) where
  /-- The answers. -/
  answer : Nat → Answer σ
  /-- The time before the first question, in nanoseconds. -/
  start : Nat
  /-- The times after the questions, in nanoseconds. -/
  reading : Nat → Nat
  /-- The clock does not go back. -/
  started : start ≤ reading 0
  /-- The clock advances by a pause at least. -/
  advances : ∀ k, reading k + pause.nanoseconds ≤ reading (k + 1)

/-- What is done to a started program. -/
inductive Act
  /-- Ask whether it has ended. -/
  | ask
  /-- Kill it. -/
  | kill
  /-- Wait for its end after it has been killed. -/
  | collect
  deriving DecidableEq, Repr

/-- How waiting for a program ends. -/
inductive Ending (σ : Type)
  /-- The program has ended within the limit. -/
  | ended (status : σ)
  /-- The limit is over. -/
  | timedOut
  /-- The system could not tell. -/
  | failed (fault : IoFault)
  deriving DecidableEq, Repr

/-- What comes of the call whose program has been waited for. -/
def Ending.reply : Ending Ended → Reply
  | .ended e => .ended e
  | .timedOut => .timedOut
  | .failed fault => .lost fault

/-- A waiting that is over. -/
structure Wait (σ : Type) where
  /-- How it ended. -/
  ending : Ending σ
  /-- What was done to the program, in order. -/
  acts : List Act
  deriving DecidableEq, Repr

namespace Child

/-- Wait for a program that is asked for the `k`-th time next, counted from zero. -/
def waitFrom {σ : Type} (child : Child σ) (deadline k : Nat) : Wait σ :=
  match child.answer k with
  | .ended status => ⟨.ended status, [.ask]⟩
  | .failed fault => ⟨.failed fault, [.ask, .kill, .collect]⟩
  | .running =>
    if deadline ≤ child.reading k then ⟨.timedOut, [.ask, .kill, .collect]⟩
    else
      let later := child.waitFrom deadline (k + 1)
      ⟨later.ending, .ask :: later.acts⟩
termination_by deadline - child.reading k
decreasing_by
  have h : child.reading k + 10 * 1000000 ≤ child.reading (k + 1) := child.advances k
  omega

/-- Wait for a program that has just been started.  There is no waiting, nor an end of it, if the
clock cannot show when the limit is over. -/
def wait {σ : Type} (child : Child σ) (limit : Duration) : Option (Wait σ) :=
  (deadline? child.start limit).map fun deadline => child.waitFrom deadline 0

end Child

end NameTables
