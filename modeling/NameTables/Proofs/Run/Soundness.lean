import NameTables.Proofs.Files.Paths
import NameTables.Proofs.Run.Jobs
import NameTables.Proofs.Tool.Processes
import NameTables.Resolver

/-!
# Jobs over sound stores

A store of files is sound if every node is in a directory and every file is known.  All that is done
here to files leaves them sound, and so do tools, whatever else they do: no real store is otherwise.

## Main definitions

* `Job.KeepsSound`, `Tools.KeepSound` — jobs and tools that leave sound stores sound.

## Main statements

* `Resolver.keepsSound_ofSettings`, `Resolver.keepsSound_resolve` — the jobs of a resolver.
-/

namespace NameTables

namespace Job

variable {α β : Type} {job : Job α} {next : α → Job β} {fs fs' : Files} {result : Except Failure α}

/-- The job leaves sound stores sound. -/
def KeepsSound (job : Job α) : Prop := ∀ fs : Files, fs.Sound → (job fs).2.Sound

theorem KeepsSound.sound (h : job.KeepsSound) (hsound : fs.Sound) (hjob : job fs = (result, fs')) :
    fs'.Sound := by
  have hends := h fs hsound
  rwa [hjob] at hends

theorem keepsSound_of_snd_eq (h : ∀ fs, (job fs).2 = fs) : job.KeepsSound := by
  intro fs hsound
  rwa [h fs]

theorem keepsSound_pure (a : α) : (pure a : Job α).KeepsSound := keepsSound_of_snd_eq fun _ => rfl

theorem keepsSound_fail (failure : Failure) : (fail failure : Job α).KeepsSound :=
  keepsSound_of_snd_eq fun _ => rfl

theorem keepsSound_look (f : Files → Except IoFault α) : (look f).KeepsSound := by
  refine keepsSound_of_snd_eq fun fs => ?_
  rw [look]
  split <;> rfl

theorem KeepsSound.attempt (h : job.KeepsSound) : job.attempt.KeepsSound := h

theorem KeepsSound.bind (hjob : job.KeepsSound) (hnext : ∀ a, (next a).KeepsSound) :
    (job >>= next).KeepsSound := by
  intro fs hsound
  rcases hdone : job fs with ⟨failure | a, fs₁⟩
  · rw [bind_of_error hdone]
    exact hjob.sound hsound hdone
  · rw [bind_of_ok hdone]
    exact hnext a fs₁ (hjob.sound hsound hdone)

theorem KeepsSound.withScratch {ending : Text} {content : Bytes} {use : Path → Job α}
    (huse : ∀ p, (use p).KeepsSound) : (withScratch ending content use).KeepsSound := by
  intro fs hsound
  simp only [Job.withScratch]
  cases hwrite : fs.write (fs.freeScratchPath ending) content with
  | error fault => exact hsound
  | ok fs₁ => exact (huse _ fs₁ ((Files.keeps_write hsound hwrite).sound hsound)).unlink _

end Job

variable {tools : Tools}

/-- The tools leave sound stores sound. -/
def Tools.KeepSound (tools : Tools) : Prop := ∀ call fs, fs.Sound → (tools call fs).2.Sound

theorem Tools.KeepSound.run (h : tools.KeepSound) (call : Call) : (tools.run call).KeepsSound :=
  h call

/-- Tools that only write the rule leave sound stores sound. -/
theorem Tools.keepSound_answering (rule : Text) : (answering rule).KeepSound := by
  intro call fs hsound
  rw [answering]
  split
  · split
    · next hwrite => exact (Files.keeps_write hsound hwrite).sound hsound
    · exact hsound
  · exact hsound

namespace Compiler

theorem keepsSound_detectAmong (h : tools.KeepSound) (limit : Duration) (names : List Text) :
    (detectAmong tools limit names).KeepsSound := by
  induction names with
  | nil => exact Job.keepsSound_pure none
  | cons name rest ih =>
    refine (h.run _).attempt.bind fun result => ?_
    cases result with
    | error failure => exact ih
    | ok e =>
      dsimp only
      split_ifs
      · exact Job.keepsSound_pure _
      · exact ih

theorem keepsSound_ofSettings (h : tools.KeepSound) (s : ToolSettings) :
    (ofSettings tools s).KeepsSound := by
  rw [ofSettings]
  split
  · exact Job.keepsSound_pure _
  · refine (keepsSound_detectAmong h _ _).bind fun found => ?_
    cases found with
    | none => exact Job.keepsSound_fail _
    | some c => exact Job.keepsSound_pure c

end Compiler

/-- A program that has to succeed leaves sound stores sound, as far as what follows does. -/
theorem Tools.KeepSound.require {α : Type} {next : Ended → Job α} (h : tools.KeepSound) (call : Call)
    (refused : Ended → Failure) (hnext : ∀ e, (next e).KeepsSound) :
    (tools.require call refused next).KeepsSound := by
  refine (h.run call).bind fun e => ?_
  split_ifs
  · exact hnext e
  · exact Job.keepsSound_fail _

namespace Resolver

theorem keepsSound_ofSettings (h : tools.KeepSound) (s : ToolSettings) :
    (ofSettings tools s).KeepsSound :=
  (Compiler.keepsSound_ofSettings h s).bind fun _ =>
    (Job.keepsSound_look _).bind fun _ => Job.keepsSound_pure _

theorem keepsSound_searchFlags (h : tools.KeepSound) (r : Resolver) (header : Text)
    (package : Option Text) : (r.searchFlags tools header package).KeepsSound := by
  cases package with
  | none => exact Job.keepsSound_pure _
  | some name =>
    exact (h.require _ _ fun _ => Job.keepsSound_pure _).bind fun _ => Job.keepsSound_pure _

theorem keepsSound_resolve (h : tools.KeepSound) (r : Resolver) (header : Text)
    (package : Option Text) : (r.resolve tools header package).KeepsSound := by
  rw [resolve]
  split_ifs
  · refine (keepsSound_searchFlags h r header package).bind fun flags => ?_
    refine Job.KeepsSound.withScratch fun source => Job.KeepsSound.withScratch fun ruleFile => ?_
    refine (h.require _ _ fun _ => Job.keepsSound_pure ()).bind fun _ => ?_
    exact (Job.keepsSound_look _).bind fun _ => Job.keepsSound_of_snd_eq fun _ => rfl
  · exact Job.keepsSound_fail _

end Resolver

end NameTables
