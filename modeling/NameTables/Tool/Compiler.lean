import NameTables.Settings.Basic
import NameTables.Text.Blank
import NameTables.Text.Utf8
import NameTables.Tool.Basic

/-!
# Compilers

A C compiler tells, when asked for the dependencies of a source, every file that it reads.  One is
taken from the settings, or looked for among the usual names.

## Main definitions

* `Compiler` — a compiler and the time each call of it has.
* `Compiler.detect` — the first usual compiler that answers.
* `Compiler.version?` — the first line it says about itself.
* `Compiler.listDependencies` — have it write a dependency rule.
-/

namespace NameTables

/-- A compiler. -/
structure Compiler where
  /-- The program. -/
  program : Path
  /-- The time each call has. -/
  limit : Duration
  deriving DecidableEq, Repr

namespace Compiler

/-- The call that asks a compiler for its version. -/
def versionCall (c : Compiler) : Call := ⟨c.program, ["--version".toList], c.limit⟩

/-- The names of the usual compilers. -/
def usualNames : List Text := ["cc".toList, "gcc".toList, "clang".toList]

/-- The first of these compilers that succeeds in telling its version. -/
def detectAmong (tools : Tools) (limit : Duration) : List Text → Job (Option Compiler)
  | [] => pure none
  | name :: rest => do
    let c : Compiler := ⟨⟨name⟩, limit⟩
    match ← (tools.run c.versionCall).attempt with
    -- what it prints does not matter here
    | .ok e => if e.succeeded then pure (some c) else detectAmong tools limit rest
    | .error _ => detectAmong tools limit rest

/-- The first usual compiler that succeeds in telling its version. -/
def detect (tools : Tools) (limit : Duration) : Job Compiler := do
  match ← detectAmong tools limit usualNames with
  | some c => pure c
  | none => Job.fail (.toolUnavailable (.noCompiler usualNames))

/-- The compiler that settings ask for. -/
def ofSettings (tools : Tools) (s : ToolSettings) : Job Compiler :=
  match s.compiler with
  | some program => pure ⟨program, s.timeout⟩
  | none => detect tools s.timeout

/-- The first line of a version text, which has to be UTF-8. -/
def versionOf? (e : Ended) : Option Text :=
  if e.succeeded then e.output.decode?.bind fun s => s.lines.head? else none

/-- The first line a compiler says about itself, unless it cannot be used. -/
def version? (c : Compiler) (tools : Tools) : Job (Option Text) := do
  match ← (tools.run c.versionCall).attempt with
  | .ok e => pure (versionOf? e)
  | .error _ => pure none

/-- Can the compiler be used? -/
def isAvailable (c : Compiler) (tools : Tools) : Job Bool := do
  return (← c.version? tools).isSome

/-- The arguments that make a compiler write the dependency rule of a source into a file. -/
def dependencyArgs (source ruleFile : Path) (flags : List Text) : List Text :=
  ["-M".toList, "-MF".toList, ruleFile.text, "-xc".toList, source.text] ++ flags

/-- The line of a compiler's complaint that names an error, or else all of it. -/
def errorLine (complaint : Text) : Text :=
  (complaint.lines.find? (Text.contains "error:".toList)).getD complaint.trim

/-- Have a compiler write the dependency rule of a source; the header is named when it fails. -/
def listDependencies (c : Compiler) (tools : Tools) (header : Text) (source ruleFile : Path)
    (flags : List Text) : Job Unit := do
  let e ← tools.run ⟨c.program, dependencyArgs source ruleFile flags, c.limit⟩
  if e.succeeded then pure ()
  else Job.fail (.headerNotFound header (.refused (errorLine e.complaint.decodeLossy)))

end Compiler

end NameTables
