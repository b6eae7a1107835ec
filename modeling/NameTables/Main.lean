import NameTables.Command.Basic

/-!
# The program

The outer layer: it fetches the settings file that the command line names, and prints what comes of
the command line.  No tool is started from here, so a task that needs one ends in the complaint
that there is none.
-/

namespace NameTables

/-- The files a command line works on: the settings file, if one is named and can be read. -/
def fetchFiles (args : List Text) : IO Files := do
  let none : Files := ⟨[([], .directory Files.usualDirectoryMode)], [], 0, [], 0⟩
  match Invocation.ofArguments args with
  | .ok ⟨some file, _, _⟩ =>
    try
      let content ← IO.FS.readBinFile (String.ofList file.text)
      return (Files.writeWithParent file content.toList none).2
    catch _ => return none
  | _ => return none

end NameTables

/-- Carry out a command line. -/
def main (args : List String) : IO UInt32 := do
  let words := args.map String.toList
  let files ← NameTables.fetchFiles words
  let (response, _) := NameTables.respond .none words files
  (← IO.getStdout).putStr (String.ofList response.output)
  (← IO.getStderr).putStr (String.ofList response.complaint)
  return response.code.toUInt32
