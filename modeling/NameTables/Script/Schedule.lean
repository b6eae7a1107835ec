import NameTables.Script.Run

/-!
# Processes that take turns

The processes of a machine take turns in the order of time: the one that is behind all others goes
on until it is not, or until it waits for something.  The first process counts: when it has ended,
the others only go on as long as what they write is still collected.

## Main definitions

* `Task`, `Schedule` — a process that has not ended, and all of them.
* `Schedule.turn` — the turn of one process.
* `Schedule.complete` — all turns.
-/

namespace NameTables.Script

/-- A process that has not ended. -/
structure Task where
  /-- Its number. -/
  number : Nat
  /-- Its shell as it was when the process paused, with what others have done since. -/
  shell : Shell
  /-- Can it go on? -/
  ready : Shell → Bool
  /-- Does it wait for others? -/
  waits : Bool
  /-- What it does next. -/
  resume : Shell → Process Unit

/-- The processes of a machine. -/
structure Schedule where
  /-- What they share. -/
  scene : Scene
  /-- Those that have not ended. -/
  tasks : List Task
  /-- The number of the first one. -/
  first : Nat
  /-- Its shell, when it has ended. -/
  result : Option Shell

namespace Schedule

/-- Of the processes that can go on, the one that is behind the others. -/
def next? (tasks : List Task) : Option Task :=
  tasks.foldl (fun found t =>
    if t.waits then found
    else
      match found with
      | some other => if t.shell.clock < other.shell.clock then some t else found
      | none => some t) none

/-- The schedule after a process has ended.  The one that started it is told by a signal. -/
def withEnded (g : Schedule) (number : Nat) (s : Shell) : Schedule :=
  let scene := s.toScene
  let (status, killed) :=
    match s.flow with
    | .killed signal => (Shell.killedStatus signal, (number, signal) :: scene.killed)
    | _ => (s.status % 256, scene.killed)
  let running := scene.running.filter (·.1 != number)
  { g with
    scene := Scene.sweep { scene with
      running
      ended := (number, status) :: scene.ended
      killed
      sent := if running.any (·.1 == s.starter) then scene.sent ++ [(s.starter, childSignal)]
        else scene.sent }
    result := if number = g.first then g.result.or (some s) else g.result }

/-- Tell the processes among `tasks` at a time what the others have done; those that have been told
are `told`, the last one first.  One may have become ready, or a signal may have ended it. -/
def inform (now : Nat) : Schedule → (tasks told : List Task) → Schedule
  | g, [], told => { g with tasks := told.reverse }
  | g, t :: tasks, told =>
    let s := (t.shell.inScene g.scene).receive
    match s.flow with
    | .killed _ => inform now ({ g with scene := s.toScene }.withEnded t.number
        { s with clock := now }) tasks told
    | _ =>
      let t :=
        if t.waits && t.ready s then
          { t with shell := { s with clock := max s.clock now }, waits := false }
        else { t with shell := s }
      inform now { g with scene := s.toScene } tasks (t :: told)

/-- Tell all processes at a time what has been done, as often as one of them ends by that. -/
def informAll (now : Nat) : (fuel : Nat) → Schedule → Schedule
  | 0, g => g
  | fuel + 1, g =>
    let after := inform now g g.tasks []
    if after.tasks.length = g.tasks.length then after else informAll now fuel after

/-- The schedule after a process has come so far; `others` are the other ones.  What it starts is
carried out by `begin`. -/
def settle (begin : Errand → Run Unit) (g : Schedule) (number : Nat) (others : List Task)
    (act : Process Unit) : Schedule :=
  let s := act.shell
  let g := { g with scene := s.toScene }
  let g :=
    match act with
    | .done _ s => { g.withEnded number s with tasks := others }
    | .wait ready s resume =>
      { g with tasks := others ++ [⟨number, s, ready, !ready s, resume⟩] }
    | .start errand child s resume =>
      { g with tasks := others ++ [⟨number, s, fun _ => true, false, resume⟩,
        ⟨child.number, child, fun _ => true, false, begin errand⟩] }
  informAll s.clock (g.tasks.length + 1) g

/-- The turn of a process. -/
def turn (begin : Errand → Run Unit) (g : Schedule) (t : Task) : Schedule :=
  let others := g.tasks.filter (·.number != t.number)
  let horizon := (next? others).map (·.shell.clock)
  g.settle begin t.number others (t.resume { t.shell.inScene g.scene with horizon })

/-- Is what processes still write collected? -/
def isCollecting (scene : Scene) : Bool :=
  scene.opened.any fun (_, o) =>
    match o.target with
    | .collected _ => true
    | _ => false

/-- More processes than there ever are at a time, unless they start each other without end. -/
def taskLimit : Nat := 1000

/-- Take turns until the first process has ended and nothing more is collected, or until its time is
over. -/
def complete (begin : Errand → Run Unit) (limit : Nat) : (fuel : Nat) → Schedule → Schedule
  | 0, g => g
  | fuel + 1, g =>
    if taskLimit < g.tasks.length then g
    else
      match next? g.tasks, g.result with
      | none, _ => g
      | some t, none =>
        if limit < t.shell.clock then g else complete begin limit fuel (g.turn begin t)
      | some t, some _ =>
        if isCollecting g.scene then complete begin limit fuel (g.turn begin t) else g

/-- More turns than any machine takes. -/
def turnLimit : Nat := 1000000000

/-- What the processes of a machine leave, of which the first one begins with a step of a shell: the
shell of the first process and what they share. -/
def outcome (begin : Errand → Run Unit) (s : Shell) (step : Run Unit) : Shell × Scene :=
  let start : Schedule := ⟨s.toScene, [⟨s.number, s, fun _ => true, false, step⟩], s.number, none⟩
  let g := complete begin s.limit turnLimit start
  (g.result.getD { s with flow := .late }, g.scene)

end Schedule

end NameTables.Script
