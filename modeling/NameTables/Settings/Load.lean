import NameTables.Document.Json
import NameTables.Document.Yaml.Reading
import NameTables.Settings.Decode
import NameTables.Text.Utf8

/-!
# Loading settings

A settings file is UTF-8 text in JSON or YAML, told apart by its extension.

## Main definitions

* `Format`, `Format.ofPath?` — the two notations.
* `Settings.ofText?` — the settings that a text holds.
* `Settings.ofFile` — the settings of a file with a given path and content.
-/

namespace NameTables

/-- The notation of a settings file. -/
inductive Format
  /-- JSON. -/
  | json
  /-- YAML. -/
  | yaml
  deriving DecidableEq, Repr

namespace Format

/-- A text in lower case, as far as ASCII letters go; no other letter has the lower case of a letter
that occurs in an extension looked for. -/
def lowerCase (s : Text) : Text := s.map Char.toLower

/-- The notation that an extension stands for, in whatever case it is written. -/
def ofExtension? (ext : Text) : Option Format :=
  let ext := lowerCase ext
  if ext = "json".toList then some .json
  else if ext = "yaml".toList ∨ ext = "yml".toList then some .yaml
  else none

/-- The notation of a file. -/
def ofPath (p : Path) : Except Failure Format :=
  let ext := p.extension?.getD []
  match ofExtension? ext with
  | some format => .ok format
  | none => .error (.settings (.unknownExtension ext))

end Format

namespace Settings

/-- The settings that a text holds. -/
def ofText? : Format → Text → Option Settings
  | .json, s => (Tree.ofJson? s).bind (decode? Tree.reading)
  | .yaml, s => (Yaml.Document.ofText? s).bind (·.read? decode?)

/-- The settings of a file, which have to be without fault. -/
def ofFile (p : Path) (content : Bytes) : Except Failure Settings := do
  -- the content is looked at first, whatever the extension says about it
  let some s := content.decode? | .error (.io .notUtf8)
  let format ← Format.ofPath p
  let some settings := ofText? format s | .error (.settings (.unreadable p))
  settings.validate
  return settings

end Settings

end NameTables
