import NameTables.Script.Utility.Names
import NameTables.Script.Utility.Arguments
import NameTables.Script.Utility.Blocks
import NameTables.Script.Utility.Columns
import NameTables.Script.Utility.Compare.Comparison
import NameTables.Script.Utility.Dump
import NameTables.Script.Utility.Edit.Editor
import NameTables.Script.Utility.Expression
import NameTables.Script.Utility.Find.Finder
import NameTables.Script.Utility.Grep
import NameTables.Script.Utility.Limit
import NameTables.Script.Utility.Listing
import NameTables.Script.Utility.Making
import NameTables.Script.Utility.Places
import NameTables.Script.Utility.Sequence
import NameTables.Script.Utility.Sorting
import NameTables.Script.Utility.Streams
import NameTables.Script.Utility.Surroundings
import NameTables.Script.Utility.Translation
import NameTables.Script.Utility.Words

/-!
# What programs do

## Main definitions

* `utilities` — the programs with what they do.
-/

namespace NameTables.Script

open Utility

/-- The programs for words. -/
def wordUtilities : List (String × Utility) :=
  [("[", decideInBrackets), ("basename", lastParts), ("dirname", leadingParts),
    ("echo", printLine), ("false", fun _ => modify (·.withStatus 1)), ("printenv", tellVariables),
    ("printf", printFormat), ("pwd", tellDirectory), ("seq", printNumbers), ("sleep", pause),
    ("test", decide), ("true", fun _ => return), ("yes", printOnAndOn)]

/-- The programs for whole files. -/
def streamUtilities : List (String × Utility) :=
  [("cat", printFiles), ("dd", copyBlocks), ("head", printHead), ("nl", printNumbered),
    ("od", dumpFiles), ("rev", printReversed), ("split", splitFile), ("tac", printBackwards),
    ("tail", printTail), ("tee", copyInput), ("wc", countParts)]

/-- The programs for files and directories. -/
def treeUtilities : List (String × Utility) :=
  [("chmod", changeMode), ("cp", copy), ("date", tellDate), ("find", findFiles), ("ln", link),
    ("ls", list), ("mkdir", makeDirectories), ("mkfifo", makePipes), ("mktemp", makeTemporary),
    ("mv", move), ("readlink", tellLink), ("realpath", tellRealPath), ("rm", remove),
    ("rmdir", removeDirectories), ("stat", tellState), ("touch", touch), ("truncate", resize),
    ("unlink", unlink)]

/-- The programs for lines. -/
def lineUtilities : List (String × Utility) :=
  [("cmp", printFirstDifference), ("comm", printCommon), ("cut", printPartsOfLines),
    ("diff", printDifferences), ("egrep", findLinesBy 'E'), ("expr", workOut),
    ("fgrep", findLinesBy 'F'), ("grep", findLines), ("paste", printBeside),
    ("sed", Edit.editLines), ("sort", printSorted), ("tr", translate), ("uniq", printDistinct),
    ("xargs", passArguments)]

/-- The programs for what surrounds them. -/
def surroundingUtilities : List (String × Utility) :=
  [("arch", tellProcessor), ("groups", tellGroups), ("id", tellIdentity), ("logname", tellLogin),
    ("timeout", carryOutInTime), ("tty", tellTerminal), ("uname", tellMachine),
    ("which", tellPrograms), ("whoami", tellUser)]

/-- The programs with what they do. -/
def utilities : List (Text × Utility) :=
  (wordUtilities ++ streamUtilities ++ treeUtilities ++ lineUtilities ++ surroundingUtilities).map fun (name, act) => (name.toList, act)

end NameTables.Script
