import NameTables.Failure
import NameTables.Shape

/-!
# Settings

The settings say which artefacts there are to make, where they go, and which tools to use.
Without a file two targets are built in.

## Main definitions

* `Target` — one artefact: header, stem, shape and output.
* `ToolSettings` — the external tools.
* `Settings`, `Settings.default` — all of it.
* `Settings.validate` — what a settings file has to satisfy.
* `Settings.target?`, `Settings.outputPath` — what is asked of settings.
-/

namespace NameTables

/-- An artefact to make. -/
structure Target where
  /-- The name it is asked for by. -/
  name : Text
  /-- The header, as between angle brackets. -/
  header : Text
  /-- The package whose flags find the header. -/
  package : Option Text
  /-- The beginning that a macro's name must have. -/
  stem : Text
  /-- The shape of the artefact. -/
  shape : Shape
  /-- The file it goes to. -/
  output : Path
  /-- The comment on its first line, unless that is to name the target. -/
  comment : Option Text
  deriving DecidableEq, Repr

namespace Target

/-- The comment on the first line of the artefact. -/
def provenance (t : Target) : Text :=
  t.comment.getD <|
    "// This file was generated by `macrotab run ".toList ++ t.name ++ "` from <".toList
      ++ t.header ++ ">. Do not edit.".toList

/-- What is asked of the header. -/
def request (t : Target) : Request := ⟨t.stem, t.shape, t.provenance⟩

end Target

/-- The external tools and the limit set on them. -/
structure ToolSettings where
  /-- The compiler, unless it is to be looked for. -/
  compiler : Option Path
  /-- The tool that knows packages. -/
  packageTool : Path
  /-- The limit on each run of a tool, in seconds. -/
  timeoutSeconds : Nat
  /-- Directories to search for headers. -/
  includeDirs : List Path
  deriving DecidableEq, Repr

namespace ToolSettings

/-- The tools of an ordinary system, with half a minute for each run. -/
def default : ToolSettings := ⟨none, ⟨"pkg-config".toList⟩, 30, []⟩

/-- The limit on each run of a tool. -/
def timeout (s : ToolSettings) : Duration := .ofSeconds s.timeoutSeconds

end ToolSettings

/-- The settings of a run. -/
structure Settings where
  /-- The tools. -/
  tools : ToolSettings
  /-- The directory for outputs that are given by relative paths. -/
  outputDir : Option Path
  /-- The artefacts, in order. -/
  targets : List Target
  deriving DecidableEq, Repr

namespace Settings

/-- The names of keyboard symbols, as records. -/
def keysyms : Target where
  name := "keysyms".toList
  header := "xkbcommon/xkbcommon-keysyms.h".toList
  package := some "xkbcommon".toList
  stem := "XKB_KEY_".toList
  shape := .records "keysym_name_t".toList "xkb_keysym_t".toList "keysym_names".toList .encounter
  output := ⟨"keysym_names.h".toList⟩
  comment := none

/-- The names of key codes, as a flat array. -/
def keycodes : Target where
  name := "keycodes".toList
  header := "linux/input-event-codes.h".toList
  package := none
  stem := "KEY_".toList
  shape := .slots "kernel_keycode_names".toList (some "MAX".toList)
  output := ⟨"kernel_keycode_names.h".toList⟩
  comment := none

/-- The settings in the absence of a file. -/
def default : Settings := ⟨.default, none, [keysyms, keycodes]⟩

/-- What is wrong with a target after targets with the names `seen`. -/
def targetFault? (seen : List Text) (t : Target) : Option SettingsFault :=
  if t.name.isEmpty then some .emptyName
  else if t.name ∈ seen then some (.duplicate t.name)
  else if t.header.isEmpty then some (.noHeader t.name)
  else if t.shape.arrayName.isEmpty then some (.noArrayName t.name)
  else none

/-- What is wrong with the first faulty target after targets with the names `seen`. -/
def targetsFault? : (seen : List Text) → List Target → Option SettingsFault
  | _, [] => none
  | seen, t :: rest => (targetFault? seen t).or (targetsFault? (t.name :: seen) rest)

@[simp] theorem targetsFault?_nil (seen : List Text) : targetsFault? seen [] = none := rfl

@[simp] theorem targetsFault?_cons (seen : List Text) (t : Target) (rest : List Target) :
    targetsFault? seen (t :: rest) =
      (targetFault? seen t).or (targetsFault? (t.name :: seen) rest) := rfl

/-- What is wrong with settings: the first faulty target, else a limit of zero. -/
def fault? (s : Settings) : Option SettingsFault :=
  (targetsFault? [] s.targets).or
    (if s.tools.timeoutSeconds = 0 then some .zeroTimeout else none)

/-- Accept settings without fault. -/
def validate (s : Settings) : Except Failure Unit :=
  match s.fault? with
  | some fault => .error (.settings fault)
  | none => .ok ()

/-- The first target with a name. -/
def target? (s : Settings) (name : Text) : Option Target := s.targets.find? (·.name == name)

/-- The file a target goes to: a relative output is taken below the output directory. -/
def outputPath (s : Settings) (t : Target) : Path :=
  match s.outputDir with
  | some dir => dir.join t.output
  | none => t.output

end Settings

end NameTables
