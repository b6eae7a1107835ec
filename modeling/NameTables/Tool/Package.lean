import NameTables.Text.Blank
import NameTables.Text.Utf8
import NameTables.Tool.Basic

/-!
# Packages

A package tool tells the compiler flags that a package needs.

## Main definitions

* `PackageTool` — a package tool and the time each call of it has.
* `PackageTool.flags` — the flags of a package.
-/

namespace NameTables

/-- A package tool. -/
structure PackageTool where
  /-- The program. -/
  program : Path
  /-- The time each call has. -/
  limit : Duration
  deriving DecidableEq, Repr

namespace PackageTool

/-- The flags in what a package tool writes: its words. -/
def flagsIn (output : Text) : List Text := output.words

/-- The flags of a package that is wanted for a header. -/
def flags (t : PackageTool) (tools : Tools) (package header : Text) : Job (List Text) := do
  let e ← tools.run ⟨t.program, ["--cflags".toList, package], t.limit⟩
  if e.succeeded then pure (flagsIn e.output.decodeLossy)
  else
    Job.fail (.headerNotFound header (.unknownPackage package e.complaint.decodeLossy.trim))

end PackageTool

end NameTables
