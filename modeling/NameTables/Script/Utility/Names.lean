import NameTables.Script.Number

/-!
# The programs by name

The names of the programs of the system that can be carried out.  What they do is told in
`NameTables.Script.Utility.Catalogue`.

## Main definitions

* `programNames` — all of them.
-/

namespace NameTables.Script

/-- The names of the shell as a program. -/
def shellNames : List Text := ["sh".toList, "dash".toList]

/-- The names of the programs that start another one in their place. -/
def wrapperNames : List Text := ["env".toList, "nohup".toList, "nice".toList]

/-- The names of the programs that do something of their own. -/
def utilityNames : List Text :=
  ["[", "arch", "basename", "cat", "chmod", "cmp", "comm", "cp", "cut", "date", "dd", "diff",
    "dirname", "echo", "egrep", "expr", "false", "fgrep", "find", "grep", "groups", "head", "id",
    "ln", "logname", "ls", "mkdir", "mkfifo", "mktemp", "mv", "nl", "od", "paste", "printenv",
    "printf", "pwd", "readlink", "realpath", "rev", "rm", "rmdir", "sed", "seq", "sleep", "sort",
    "split", "stat", "tac", "tail", "tee", "test", "timeout", "touch", "tr", "true", "truncate",
    "tty", "uname", "uniq", "unlink", "wc", "which", "whoami", "xargs", "yes"].map String.toList

/-- The names of the programs of the system that can be carried out. -/
def programNames : List Text := shellNames ++ wrapperNames ++ utilityNames

end NameTables.Script
