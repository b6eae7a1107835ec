import NameTables.Files.Use

/-!
# Jobs

A job works on the files and ends in a result or in a failure.  What it has done to the files
before it fails stays done.

## Main definitions

* `Job` — a job, as a function of the files.
* `Job.look`, `Job.change` — the jobs that look at the files and that change them.
* `Job.attempt` — a job whose failure is an answer.
-/

namespace NameTables

/-- A job with a result of type `α`. -/
def Job (α : Type) := Files → Except Failure α × Files

namespace Job

instance : Monad Job where
  pure a := fun fs => (.ok a, fs)
  bind job next := fun fs =>
    match job fs with
    | (.ok a, fs) => next a fs
    | (.error failure, fs) => (.error failure, fs)

/-- Fail at once. -/
def fail {α : Type} (failure : Failure) : Job α := fun fs => (.error failure, fs)

@[simp] theorem pure_apply {α : Type} (a : α) (fs : Files) : (pure a : Job α) fs = (.ok a, fs) :=
  rfl

@[simp] theorem fail_apply {α : Type} (failure : Failure) (fs : Files) :
    (fail failure : Job α) fs = (.error failure, fs) := rfl

theorem bind_apply {α β : Type} (job : Job α) (next : α → Job β) (fs : Files) :
    (job >>= next) fs =
      match job fs with
      | (.ok a, fs) => next a fs
      | (.error failure, fs) => (.error failure, fs) := rfl

/-- What is decided without the files. -/
def ofExcept {α : Type} (result : Except Failure α) : Job α := fun fs => (result, fs)

@[simp] theorem ofExcept_apply {α : Type} (result : Except Failure α) (fs : Files) :
    ofExcept result fs = (result, fs) := rfl

/-- Look at the files and leave them as they are. -/
def look {α : Type} (f : Files → Except IoFault α) : Job α := fun fs =>
  match f fs with
  | .ok a => (.ok a, fs)
  | .error fault => (.error (.io fault), fs)

/-- Change the files, or leave them as they are when that is not possible. -/
def change (f : Files → Except IoFault Files) : Job Unit := fun fs =>
  match f fs with
  | .ok changed => (.ok (), changed)
  | .error fault => (.error (.io fault), fs)

/-- A job that ends with the result of `job`, whether that is a failure or not. -/
def attempt {α : Type} (job : Job α) : Job (Except Failure α) := fun fs =>
  let (result, fs) := job fs
  (.ok result, fs)

@[simp] theorem attempt_apply {α : Type} (job : Job α) (fs : Files) :
    job.attempt fs = (.ok (job fs).1, (job fs).2) := rfl

/-- Do something to the files after a job, whether it fails or not. -/
def andFinally {α : Type} (job : Job α) (tidy : Files → Files) : Job α := fun fs =>
  let (result, fs) := job fs
  (result, tidy fs)

end Job

end NameTables
