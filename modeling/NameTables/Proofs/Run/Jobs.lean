import NameTables.Job

/-!
# Jobs one after another

A job that goes on with another ends in a result when both do, and in a failure when one of them
does; what the first has done to the files is what the second finds.

## Main statements

* `Job.bind_eq_ok_iff` — when two jobs in turn end in a result.
-/

namespace NameTables

namespace Job

variable {α β : Type} {job : Job α} {next : α → Job β} {a : α} {b : β} {failure : Failure}
  {fs fs' fs'' : Files}

theorem bind_of_ok (h : job fs = (.ok a, fs')) : (job >>= next) fs = next a fs' := by
  rw [bind_apply, h]

theorem bind_of_error (h : job fs = (.error failure, fs')) :
    (job >>= next) fs = (.error failure, fs') := by
  rw [bind_apply, h]

theorem bind_eq_ok_iff : (job >>= next) fs = (.ok b, fs'')
    ↔ ∃ a fs', job fs = (.ok a, fs') ∧ next a fs' = (.ok b, fs'') := by
  constructor
  · intro h
    rcases hjob : job fs with ⟨failure | a, fs'⟩
    · rw [bind_of_error hjob] at h
      cases h
    · rw [bind_of_ok hjob] at h
      exact ⟨a, fs', rfl, h⟩
  · rintro ⟨a, fs', hjob, hnext⟩
    rw [bind_of_ok hjob, hnext]

/-- What follows a job and only looks at the files leaves what the job has done to them. -/
theorem snd_bind_of_snd_eq (hnext : ∀ a fs, (next a fs).2 = fs) (fs : Files) :
    ((job >>= next) fs).2 = (job fs).2 := by
  rcases hjob : job fs with ⟨failure | a, fs'⟩
  · rw [bind_of_error hjob]
  · rw [bind_of_ok hjob, hnext]

theorem look_of_ok {f : Files → Except IoFault α} (h : f fs = .ok a) :
    look f fs = (.ok a, fs) := by
  rw [look, h]

theorem look_of_error {f : Files → Except IoFault α} {fault : IoFault} (h : f fs = .error fault) :
    look f fs = (.error (.io fault), fs) := by
  rw [look, h]

theorem change_of_ok {f : Files → Except IoFault Files} (h : f fs = .ok fs') :
    change f fs = (.ok (), fs') := by
  rw [change, h]

theorem change_of_error {f : Files → Except IoFault Files} {fault : IoFault}
    (h : f fs = .error fault) : change f fs = (.error (.io fault), fs) := by
  rw [change, h]

end Job

end NameTables
