import NameTables.Script.Shell

/-!
# Processes

What a process does, up to where others have to be let on: it may be done, wait for others, or
start another process.  Commands are written as steps of a shell that may pause in this way, so
that several processes can take turns in the order of time.

## Main definitions

* `Errand` — what a process is started for.
* `Process` — what a process does next.
* `Run` — a step of a shell, as a monad.
* `Run.pass`, `Run.await`, `Run.begin` — let time pass, wait, and start a process.
* `Run.apart`, `Run.carryOutProgram` — processes that the shell waits for.

## Main statements

* `Process.bind_done`, `Process.bind_assoc` — steps after one another form a monad.
-/

namespace NameTables.Script

/-- A program and what it is started with. -/
structure Start where
  /-- The name of the program. -/
  program : Text
  /-- The name it is called by. -/
  name : Text
  /-- Its arguments. -/
  args : List Text

/-- What a process is started for. -/
inductive Errand
  /-- To carry out a command in a shell of its own. -/
  | command (c : Command)
  /-- To carry out a program. -/
  | program (start : Start)

/-- What a process does next. -/
inductive Process (α : Type)
  /-- It is done, with a result. -/
  | done (a : α) (s : Shell)
  /-- It waits until its shell, as others leave the scene, is ready. -/
  | wait (ready : Shell → Bool) (s : Shell) (resume : Shell → Process α)
  /-- It starts a process with a shell of its own. -/
  | start (errand : Errand) (child s : Shell) (resume : Shell → Process α)

namespace Process

variable {α β γ : Type}

/-- Go on with another step when the process is done. -/
def bind : Process α → (α → Shell → Process β) → Process β
  | .done a s, next => next a s
  | .wait ready s resume, next => .wait ready s fun s => (resume s).bind next
  | .start errand child s resume, next => .start errand child s fun s => (resume s).bind next

@[simp] theorem bind_done (a : α) (s : Shell) (next : α → Shell → Process β) :
    (done a s).bind next = next a s := rfl

theorem bind_assoc (act : Process α) (f : α → Shell → Process β) (g : β → Shell → Process γ) :
    (act.bind f).bind g = act.bind fun a s => (f a s).bind g := by
  induction act with
  | done a s => rfl
  | wait ready s resume ih => simp [bind, ih]
  | start errand child s resume ih => simp [bind, ih]

/-- The shell of the process, as it stands. -/
def shell : Process α → Shell
  | .done _ s => s
  | .wait _ s _ => s
  | .start _ _ s _ => s

end Process

/-- A step of a shell. -/
def Run (α : Type) := Shell → Process α

/-- Take a step as long as it asks for more, each time with what the last one has given.  A step
takes time, so the number of steps is bounded by the time there is; a shell that takes more is
late. -/
def repeatWhile {σ : Type} (step : σ → Run (Option σ)) : (fuel : Nat) → σ → Run Unit
  | 0, _ => fun s => .done () { s with flow := .late }
  | fuel + 1, a => fun s =>
    match step a s with
    | .done (some a) s => repeatWhile step fuel a s
    | .done none s => .done () s
    | act => act.bind fun more s =>
      match more with
      | some a => repeatWhile step fuel a s
      | none => .done () s

/-- A number of steps that takes longer than the time there is. -/
def Shell.stepsLeft (s : Shell) : Nat := (s.limit - s.clock) / Shell.stepTime + 2

namespace Run

instance : Monad Run where
  pure a := fun s => .done a s
  bind step next := fun s => (step s).bind next

instance : MonadStateOf Shell Run where
  get := fun s => .done s s
  set s := fun _ => .done () s
  modifyGet f := fun s => let (a, s) := f s; .done a s

/-- Is the shell still at it? -/
def goes : Run Bool := return (← get).goes

/-- Wait until the shell, as others leave the scene, is ready. -/
def await (ready : Shell → Bool) : Run Unit := fun s =>
  if ready s then .done () s
  else .wait ready s fun s => .done () (s.after 0)

/-- Let time pass.  When that takes the shell beyond its horizon, others are let on. -/
def pass (time : Nat) : Run Unit := fun s =>
  let s := s.after time
  if s.goes && s.horizon.any (· < s.clock) then .wait (fun _ => true) s fun s => .done () s
  else .done () s

/-- Let others on. -/
def rest : Run Unit := fun s => .wait (fun _ => true) s fun s => .done () s

/-! ### Starting processes -/

/-- Start a process in a shell that is made from this one, and tell its number. -/
def begin (errand : Errand) (prepare : Shell → Shell) (delay : Nat) : Run Nat := fun s =>
  let number := s.latest + 1
  let scene := { s.toScene with latest := number, running := (number, s.held) :: s.running }
  let s := s.forgetJob
  let child := (prepare { s with
    toScene := scene
    number
    starter := s.number
    clock := s.clock + delay }).publish
  .start errand child (s.inScene child.toScene) fun s => .done number s

/-- Wait until a process has ended. -/
def awaitEnd (number : Nat) : Run Unit :=
  await fun s => s.isOver || s.ended.any (·.1 == number)

/-- Wait until a process has ended, and take its status. -/
def awaitStatus (number : Nat) : Run Unit := do
  awaitEnd number
  if !(← get).isOver then
    modify (·.afterProcess number)
    pass Shell.wakeTime

/-- Carry out a command in a shell of its own, and wait for it. -/
def apart (c : Command) : Run Unit := do
  let number ← begin (.command c) Shell.inside (Shell.forkTime + Shell.wakeTime)
  awaitStatus number

/-- Carry out a program, and wait for it; a part of this shell is known to it. -/
def carryOutProgram (start : Start) (prepare : Shell → Shell) : Run Unit := do
  let number ← begin (.program start) prepare 0
  awaitStatus number

end Run

end NameTables.Script
