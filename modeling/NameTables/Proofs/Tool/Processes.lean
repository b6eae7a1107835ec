import NameTables.Proofs.Run.Jobs
import NameTables.Tool.Compiler
import NameTables.Tool.Package

/-!
# The processes a job starts

External tools may leave anything behind, so a job that comes to the same whatever a call would have
done has not made that call.  That is how it is told here which processes a job starts: it rests on
the answers to some questions, and on nothing else that the tools are.

A call whose program has to succeed fails in three ways: the program cannot be started, it does not
end in time, or it ends without success.

## Main definitions

* `Tools.StartsOnly` — a job starts no other processes than these.
* `Reply.Succeeds`, `Reply.Fails` — a call that succeeds, and how one fails.

## Main statements

* `PackageTool.flags_of_fails`, `Compiler.listDependencies_of_fails` — what comes of the two calls
  when they fail.
-/

namespace NameTables

/-- The file that a compiler is told to write the dependency rule to. -/
def Call.ruleFile? (call : Call) : Option Path :=
  match call.args with
  | mode :: switch :: file :: _ =>
    if mode = "-M".toList ∧ switch = "-MF".toList then some ⟨file⟩ else none
  | _ => none

namespace Tools

/-- The tools answer these questions alike: a call over some files comes to the same. -/
def AgreeOn (tools tools' : Tools) (asked : List (Call × Files)) : Prop :=
  ∀ question ∈ asked, tools' question.1 question.2 = tools question.1 question.2

/-- With these tools, `use` starts no other process than the calls in `asked`, each over the files
that stand with it: any tools that answer these alike come to the same. -/
def StartsOnly {α : Type} (tools : Tools) (asked : List (Call × Files)) (use : Tools → α) : Prop :=
  ∀ tools', tools.AgreeOn tools' asked → use tools' = use tools

/-- Tools that succeed in whatever they are asked and write this rule if they are to write one. -/
def answering (rule : Text) : Tools := fun call fs =>
  match call.ruleFile? with
  | some p =>
    match fs.write p rule.encode with
    | .ok fs => (.ended ⟨some 0, [], []⟩, fs)
    | .error fault => (.lost fault, fs)
  | .none => (.ended ⟨some 0, [], []⟩, fs)

variable {tools : Tools} {call : Call} {fs fs' : Files} {reply : Reply}

theorem run_of_reply (h : tools call fs = (reply, fs')) :
    tools.run call fs = (reply.result call, fs') := by
  rw [run, h]

end Tools

namespace Reply

/-- The program has ended with success. -/
def Succeeds (reply : Reply) : Prop := ∃ e, reply = .ended e ∧ e.succeeded

/-- How a call fails whose program has to succeed; `refused` tells what it means that the program
ends without success. -/
inductive Fails (call : Call) (refused : Ended → Failure) : Reply → Failure → Prop
  /-- The program cannot be started. -/
  | notStarted (fault : IoFault) :
    Fails call refused (.notStarted fault) (.toolUnavailable (.cannotRun call.program.text fault))
  /-- It does not end in time. -/
  | timedOut :
    Fails call refused .timedOut (.toolUnavailable (.timedOut call.program.text call.limit))
  /-- A signal ends it, or it ends with another exit code than zero. -/
  | refused (e : Ended) (he : ¬ e.succeeded) : Fails call refused (.ended e) (refused e)

variable {call : Call} {refused : Ended → Failure}

/-- A call that does not succeed fails, unless the system cannot tell what has come of it. -/
theorem exists_fails {reply : Reply} (hreply : ¬ reply.Succeeds)
    (hknown : ∀ fault, reply ≠ .lost fault) : ∃ failure, Fails call refused reply failure := by
  cases reply with
  | notStarted fault => exact ⟨_, .notStarted fault⟩
  | timedOut => exact ⟨_, .timedOut⟩
  | lost fault => exact absurd rfl (hknown fault)
  | ended e => exact ⟨_, .refused e fun he => hreply ⟨e, rfl, he⟩⟩

end Reply

namespace Tools

variable {α : Type} {tools : Tools} {call : Call} {refused : Ended → Failure}
  {next : Ended → Job α} {fs fs' : Files} {reply : Reply} {failure : Failure}

/-- Call a program that has to succeed, and go on with what it leaves. -/
def require (tools : Tools) (call : Call) (refused : Ended → Failure) (next : Ended → Job α) :
    Job α := do
  let e ← tools.run call
  if e.succeeded then next e else Job.fail (refused e)

theorem require_of_fails (hcall : tools call fs = (reply, fs'))
    (hfails : reply.Fails call refused failure) :
    tools.require call refused next fs = (.error failure, fs') := by
  cases hfails with
  | notStarted fault => exact Job.bind_of_error (run_of_reply hcall)
  | timedOut => exact Job.bind_of_error (run_of_reply hcall)
  | refused e he =>
    rw [require, Job.bind_of_ok (run_of_reply hcall), if_neg he]
    rfl

theorem require_of_ended {e : Ended} (hcall : tools call fs = (.ended e, fs')) (he : e.succeeded) :
    tools.require call refused next fs = next e fs' := by
  rw [require, Job.bind_of_ok (run_of_reply hcall), if_pos he]

/-- Of the tools only the answer to the call matters, as long as `next` does not use them. -/
theorem require_congr {tools' : Tools} (h : tools' call fs = tools call fs) :
    tools'.require call refused next fs = tools.require call refused next fs := by
  simp only [require, Job.bind_apply, run, h]

/-- Only a program that has succeeded leads to a result. -/
theorem require_eq_ok {a : α} (h : tools.require call refused next fs = (.ok a, fs')) :
    ∃ e fs₁, tools call fs = (.ended e, fs₁) ∧ e.succeeded ∧ next e fs₁ = (.ok a, fs') := by
  obtain ⟨e, fs₁, hrun, hnext⟩ := Job.bind_eq_ok_iff.mp h
  rcases hcall : tools call fs with ⟨reply, fs₂⟩
  rw [run_of_reply hcall] at hrun
  cases reply with
  | notStarted fault => cases hrun
  | timedOut => cases hrun
  | lost fault => cases hrun
  | ended e' =>
    cases hrun
    by_cases he : e.succeeded
    · rw [if_pos he] at hnext
      exact ⟨e, fs₁, rfl, he, hnext⟩
    · rw [if_neg he] at hnext
      cases hnext

end Tools

/-! ### Packages -/

namespace PackageTool

variable {t : PackageTool} {tools : Tools} {package header : Text} {fs fs' : Files}

/-- The call that asks for the flags of a package. -/
def flagsCall (t : PackageTool) (package : Text) : Call :=
  ⟨t.program, ["--cflags".toList, package], t.limit⟩

/-- The failure to know a package that is wanted for a header. -/
def unknown (package header : Text) (e : Ended) : Failure :=
  .headerNotFound header (.unknownPackage package e.complaint.decodeLossy.trim)

theorem flags_of_fails {reply : Reply} {failure : Failure}
    (hcall : tools (t.flagsCall package) fs = (reply, fs'))
    (hfails : reply.Fails (t.flagsCall package) (unknown package header) failure) :
    t.flags tools package header fs = (.error failure, fs') :=
  Tools.require_of_fails hcall hfails

theorem flags_of_ended {e : Ended} (hcall : tools (t.flagsCall package) fs = (.ended e, fs'))
    (he : e.succeeded) :
    t.flags tools package header fs = (.ok (flagsIn e.output.decodeLossy), fs') :=
  Tools.require_of_ended hcall he

theorem flags_eq_ok {flags : List Text} (h : t.flags tools package header fs = (.ok flags, fs')) :
    ∃ e, tools (t.flagsCall package) fs = (.ended e, fs') ∧ e.succeeded
      ∧ flags = flagsIn e.output.decodeLossy := by
  obtain ⟨e, fs₁, hcall, he, hflags⟩ := Tools.require_eq_ok h
  cases hflags
  exact ⟨e, hcall, he, rfl⟩

end PackageTool

/-! ### Compilers -/

namespace Compiler

variable {c : Compiler} {tools : Tools} {header : Text} {source ruleFile : Path}
  {flags : List Text} {fs fs' : Files}

/-- The call that has a compiler write the dependency rule of a source. -/
def dependencyCall (c : Compiler) (source ruleFile : Path) (flags : List Text) : Call :=
  ⟨c.program, dependencyArgs source ruleFile flags, c.limit⟩

/-- The failure of a compiler to read a source that includes a header. -/
def refusal (header : Text) (e : Ended) : Failure :=
  .headerNotFound header (.refused (errorLine e.complaint.decodeLossy))

theorem listDependencies_eq_require : c.listDependencies tools header source ruleFile flags
    = tools.require (c.dependencyCall source ruleFile flags) (refusal header)
        fun _ => pure () := rfl

theorem listDependencies_of_fails {reply : Reply} {failure : Failure}
    (hcall : tools (c.dependencyCall source ruleFile flags) fs = (reply, fs'))
    (hfails : reply.Fails (c.dependencyCall source ruleFile flags) (refusal header) failure) :
    c.listDependencies tools header source ruleFile flags fs = (.error failure, fs') :=
  Tools.require_of_fails hcall hfails

theorem listDependencies_of_ended {e : Ended}
    (hcall : tools (c.dependencyCall source ruleFile flags) fs = (.ended e, fs'))
    (he : e.succeeded) :
    c.listDependencies tools header source ruleFile flags fs = (.ok (), fs') :=
  Tools.require_of_ended hcall he

theorem listDependencies_eq_ok
    (h : c.listDependencies tools header source ruleFile flags fs = (.ok (), fs')) :
    ∃ e, tools (c.dependencyCall source ruleFile flags) fs = (.ended e, fs') ∧ e.succeeded := by
  obtain ⟨e, fs₁, hcall, he, hend⟩ := Tools.require_eq_ok h
  cases hend
  exact ⟨e, hcall, he⟩

end Compiler

end NameTables
