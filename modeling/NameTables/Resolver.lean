import NameTables.Rule
import NameTables.Tool.Compiler
import NameTables.Tool.Package

/-!
# Finding headers

The file behind an include name is the one the compiler reads: a source that includes nothing else
is written, the compiler lists what it depends on, and the header is looked up in that rule.  The
source and the rule are scratch files that are gone when the answer is known.

## Main definitions

* `SearchList` — the directories to search, each once, in the order they were added.
* `Resolver` — the tools and the search list.
* `Resolver.resolve` — the file behind an include name.
-/

namespace NameTables

/-- Directories to search for headers. -/
structure SearchList where
  /-- The directories, in the order they were added. -/
  dirs : List Path
  deriving DecidableEq, Repr

namespace SearchList

/-- No directories. -/
def empty : SearchList := ⟨[]⟩

/-- Is the directory listed, in whatever spelling? -/
def lists (l : SearchList) (dir : Path) : Bool := l.dirs.any (dir.same ·)

/-- The list with one more directory, unless it is listed; a relative one is below `here`. -/
def add (l : SearchList) (here dir : Path) : SearchList :=
  if l.lists (here.join dir) then l else ⟨l.dirs ++ [here.join dir]⟩

/-- The list with more directories. -/
def addAll (l : SearchList) (here : Path) (dirs : List Path) : SearchList :=
  dirs.foldl (·.add here ·) l

/-- The compiler flags for the directories. -/
def flags (l : SearchList) : List Text := l.dirs.map fun dir => '-' :: 'I' :: dir.text

end SearchList

/-- What finds headers. -/
structure Resolver where
  /-- The compiler. -/
  compiler : Compiler
  /-- The package tool. -/
  packageTool : PackageTool
  /-- The directories to search. -/
  search : SearchList
  deriving DecidableEq, Repr

/-- A source that includes one header. -/
def translationUnit (header : Text) : Text :=
  "#include <".toList ++ header ++ ">\n\nint main (void) \x7b\n    return 0;\n\x7d\n".toList

/-- The directory for scratch files. -/
def scratchDirectory : Path := ⟨"/tmp".toList⟩

/-- The path of a scratch file: its number in six digits at least stands in its name. -/
def scratchPath (ending : Text) (number : Nat) : Path :=
  let digits := Text.ofNat number
  let padded := List.replicate (6 - digits.length) '0' ++ digits
  scratchDirectory.join ⟨"macrotab-".toList ++ padded ++ ending⟩

namespace Files

/-- A scratch path with nothing at it, not even a link that leads nowhere. -/
def freeScratchPath (fs : Files) (ending : Text) : Path :=
  let numbers := List.range (fs.nodes.length + 1)
  scratchPath ending ((numbers.find? fun n => (fs.linkAt? (scratchPath ending n)).isNone).getD 0)

end Files

/-- A job that uses a scratch file with the given content; the file is gone afterwards. -/
def Job.withScratch {α : Type} (ending : Text) (content : Bytes) (use : Path → Job α) : Job α :=
  fun fs =>
    let p := fs.freeScratchPath ending
    match fs.write p content with
    | .ok fs => (use p).andFinally (·.unlink p) fs
    | .error fault => (.error (.io fault), fs)

namespace Resolver

/-- The resolver that settings ask for. -/
def ofSettings (tools : Tools) (s : ToolSettings) : Job Resolver := do
  let compiler ← Compiler.ofSettings tools s
  let here ← Job.look fun fs => .ok fs.herePath
  return ⟨compiler, ⟨s.packageTool, s.timeout⟩, SearchList.empty.addAll here s.includeDirs⟩

/-- The resolver with more directories to search. -/
def addDirs (r : Resolver) (here : Path) (dirs : List Path) : Resolver :=
  { r with search := r.search.addAll here dirs }

/-- Can the text stand between the angle brackets of an include line? -/
def isIncludeName (header : Text) : Bool :=
  !header.isEmpty && !header.any fun c => c = '<' || c = '>' || c = '\n'

/-- The compiler flags that find a header: the search list's, then the package's. -/
def searchFlags (r : Resolver) (tools : Tools) (header : Text) :
    Option Text → Job (List Text)
  | none => pure r.search.flags
  | some package => do
    return r.search.flags ++ (← r.packageTool.flags tools package header)

/-- Read a file that holds text. -/
def readText (p : Path) : Job Text :=
  Job.look fun fs => do
    match (← fs.read p).decode? with
    | some s => .ok s
    | none => .error .notUtf8

/-- The path of the header that a rule tells. -/
def headerIn (header : Text) (rule : Rule) : Except Failure Path :=
  if rule.paths.isEmpty then .error (.headerNotFound header .noRule) else rule.headerPath header

/-- The file behind an include name. -/
def resolve (r : Resolver) (tools : Tools) (header : Text) (package : Option Text) : Job Path :=
  if isIncludeName header then do
    -- the package is asked before any scratch file is written
    let flags ← r.searchFlags tools header package
    Job.withScratch ".c".toList (translationUnit header).encode fun source =>
      Job.withScratch ".d".toList [] fun ruleFile => do
        r.compiler.listDependencies tools header source ruleFile flags
        let rule := Rule.ofText (← readText ruleFile)
        Job.ofExcept (headerIn header rule)
  else Job.fail (.headerNotFound header .notIncludeName)

end Resolver

end NameTables
