import NameTables.Duration
import NameTables.Path
import NameTables.Text.Quoted

/-!
# Failures

Why a job fails.  Each kind of failure carries its cause as data; the wording is in one place.  That
the pattern of a definition is too large to be compiled is no kind of failure here: see
`NameTables.Artefact.Basic`.

## Main definitions

* `IoFault` — why a file cannot be used or a program not be started.
* `HeaderFault`, `ToolFault`, `RuleFault`, `SettingsFault` — the causes of four kinds of failure.
* `Failure` — the kinds of failure.
* `Failure.message`, `Failure.causes` — what is reported.
-/

namespace NameTables

/-- Why the system refuses to use a file or to start a program. -/
inductive IoFault
  /-- Nothing is there. -/
  | notFound
  /-- It is there but may not be used so. -/
  | denied
  /-- Something is there already. -/
  | alreadyExists
  /-- A part of the path other than the last is no directory. -/
  | notDirectory
  /-- It is a directory. -/
  | isDirectory
  /-- It is no program. -/
  | notExecutable
  /-- Too many links lead from one to another, or programs need each other to be carried out. -/
  | tooManyLinks
  /-- There is no such device. -/
  | noDevice
  /-- There is no room left. -/
  | noSpace
  /-- Nobody reads what is written. -/
  | brokenPipe
  /-- The descriptor is not open, or not for this. -/
  | badDescriptor
  /-- The directory has something in it. -/
  | notEmpty
  /-- That makes no sense for it. -/
  | invalid
  /-- The path has a NUL in it. -/
  | nulInPath
  /-- The command line has a NUL in it. -/
  | nulInCommand
  /-- A file to be read as text is not UTF-8. -/
  | notUtf8
  deriving DecidableEq, Repr

/-- The reason, in words. -/
def IoFault.reason : IoFault → Text
  | .notFound => "No such file or directory".toList
  | .denied => "Permission denied".toList
  | .alreadyExists => "File exists".toList
  | .notDirectory => "Not a directory".toList
  | .isDirectory => "Is a directory".toList
  | .notExecutable => "Exec format error".toList
  | .tooManyLinks => "Too many levels of symbolic links".toList
  | .noDevice => "No such device or address".toList
  | .noSpace => "No space left on device".toList
  | .brokenPipe => "Broken pipe".toList
  | .badDescriptor => "Bad file descriptor".toList
  | .notEmpty => "Directory not empty".toList
  | .invalid => "Invalid argument".toList
  | .nulInPath => "file name contained an unexpected NUL byte".toList
  | .nulInCommand => "nul byte found in provided data".toList
  | .notUtf8 => "stream did not contain valid UTF-8".toList

/-- The number the system has for the fault; one that shows before the system is asked has none. -/
def IoFault.number? : IoFault → Option Nat
  | .notFound => some 2
  | .noDevice => some 6
  | .notExecutable => some 8
  | .badDescriptor => some 9
  | .denied => some 13
  | .alreadyExists => some 17
  | .notDirectory => some 20
  | .isDirectory => some 21
  | .invalid => some 22
  | .noSpace => some 28
  | .brokenPipe => some 32
  | .notEmpty => some 39
  | .tooManyLinks => some 40
  | .nulInPath => none
  | .nulInCommand => none
  | .notUtf8 => none

/-- The wording of a fault. -/
def IoFault.message (fault : IoFault) : Text :=
  fault.reason ++ match fault.number? with
    | some n => " (os error ".toList ++ Text.ofNat n ++ [')']
    | none => []

/-- Why a header is not found. -/
inductive HeaderFault
  /-- The name cannot stand between angle brackets. -/
  | notIncludeName
  /-- The package is not known; what the package tool said about it. -/
  | unknownPackage (package complaint : Text)
  /-- Whoever was asked for the header refuses it; the complaint. -/
  | refused (complaint : Text)
  /-- The compiler succeeded without listing a file. -/
  | noRule
  deriving DecidableEq, Repr

/-- The wording of a fault. -/
def HeaderFault.message : HeaderFault → Text
  | .notIncludeName => "not a valid include name".toList
  | .unknownPackage package complaint =>
    "pkg-config does not know package '".toList ++ package ++ "': ".toList ++ complaint
  | .refused complaint => complaint
  | .noRule => "compiler produced no dependency rule".toList

/-- Why a tool is not available. -/
inductive ToolFault
  /-- The program cannot be started. -/
  | cannotRun (program : Text) (fault : IoFault)
  /-- The program did not end within its limit. -/
  | timedOut (program : Text) (limit : Duration)
  /-- None of the usual compilers answers. -/
  | noCompiler (tried : List Text)
  deriving DecidableEq, Repr

/-- The wording of a fault.  A program whose name has a NUL in it is not named. -/
def ToolFault.message : ToolFault → Text
  | .cannotRun program fault =>
    "cannot run ".toList ++ nameOf program ++ ": ".toList ++ fault.message
  | .timedOut program limit => program ++ " timed out after ".toList ++ limit.text
  | .noCompiler tried =>
    "no C compiler found (tried ".toList ++ Text.join ", ".toList tried ++ ")".toList
where
  /-- The name of a program that cannot be started. -/
  nameOf (program : Text) : Text :=
    if '\x00' ∈ program then "<string-with-nul>".toList else program

/-- Why a dependency rule does not tell the header's path. -/
inductive RuleFault
  /-- No path ends in the header; `held` stands where it usually does. -/
  | noMatch (header : Text) (held : Path)
  /-- No path ends in the header, and there are fewer than the usual number. -/
  | tooFew (found : Nat)
  deriving DecidableEq, Repr

/-- The wording of a fault. -/
def RuleFault.message : RuleFault → Text
  | .noMatch header held =>
    "no dependency matches <".toList ++ header ++ "> (header position holds ".toList
      ++ held.text.quoted ++ ")".toList
  | .tooFew found => "expected at least 3 absolute paths, found ".toList ++ Text.ofNat found

/-- Why settings cannot be used. -/
inductive SettingsFault
  /-- The file's extension names no format. -/
  | unknownExtension (ext : Text)
  /-- The file does not hold settings in its format. -/
  | unreadable (file : Path)
  /-- A target has no name. -/
  | emptyName
  /-- Two targets have one name. -/
  | duplicate (name : Text)
  /-- A target has no header. -/
  | noHeader (name : Text)
  /-- A target has no array name. -/
  | noArrayName (name : Text)
  /-- The limit on external tools is zero. -/
  | zeroTimeout
  /-- A value is too large to be the index of a flat array. -/
  | tooSparse (greatest limit : Nat)
  deriving DecidableEq, Repr

/-- The wording of a fault; what exactly is wrong in an unreadable file is left open. -/
def SettingsFault.message : SettingsFault → Text
  | .unknownExtension ext => "Unknown config file extension: ".toList ++ ext
  | .unreadable file => file.text ++ ": *".toList
  | .emptyName => "target with empty name".toList
  | .duplicate name => "duplicate target '".toList ++ name ++ "'".toList
  | .noHeader name => "target '".toList ++ name ++ "' has no header".toList
  | .noArrayName name => "target '".toList ++ name ++ "' has no array name".toList
  | .zeroTimeout => "toolchain timeout must be positive".toList
  | .tooSparse greatest limit =>
    "values up to ".toList ++ Text.ofNat greatest
      ++ " are too sparse for a flat array (limit ".toList ++ Text.ofNat limit ++ ")".toList

/-- Why a job fails. -/
inductive Failure
  /-- A header is not found. -/
  | headerNotFound (header : Text) (fault : HeaderFault)
  /-- A tool is not available. -/
  | toolUnavailable (fault : ToolFault)
  /-- The compiler's dependency rule does not tell the header's path. -/
  | malformedRule (fault : RuleFault)
  /-- The header has no macro of the wanted kind. -/
  | nothingExtracted (stem source : Text)
  /-- A file cannot be used. -/
  | io (fault : IoFault)
  /-- The settings or the request cannot be met. -/
  | settings (fault : SettingsFault)
  deriving DecidableEq, Repr

namespace Failure

/-- What is reported of a failure. -/
def message : Failure → Text
  | .headerNotFound header fault =>
    "Header not found: <".toList ++ header ++ ">: ".toList ++ fault.message
  | .toolUnavailable fault => "Toolchain unavailable: ".toList ++ fault.message
  | .malformedRule fault => "Malformed dependency output: ".toList ++ fault.message
  | .nothingExtracted stem source =>
    "No entries extracted for prefix '".toList ++ stem ++ "' from ".toList ++ source
  | .io fault => "IO error: ".toList ++ fault.message
  | .settings fault => "Configuration error: ".toList ++ fault.message

/-- The report of a failure followed by the report of what caused it, if that is a fault of the
system. -/
def causes : Failure → List Text
  | .io fault => [(Failure.io fault).message, fault.message]
  | failure => [failure.message]

end Failure

end NameTables
