import NameTables.Command.Switches
import NameTables.Settings.Basic

/-!
# Invocations

What the program can be asked for on its command line.  Three switches belong to every task and
may stand before or after its name: the settings file, the dry run and the level of logging.

## Main definitions

* `Task`, `Invocation` — what is asked for.
* `Invocation.ofArguments` — what a command line asks for.
-/

namespace NameTables

/-- A target that is spelled out on the command line. -/
structure AdHoc where
  /-- The header. -/
  header : Text
  /-- The package whose flags find the header. -/
  package : Option Text
  /-- The beginning that a macro's name must have. -/
  stem : Text
  /-- The file the artefact goes to. -/
  output : Path
  /-- The name of the record type; it asks for records. -/
  structType : Option Text
  /-- The type of a record's value. -/
  valueType : Option Text
  /-- The name of the array of records. -/
  array : Option Text
  /-- Are the records to be sorted by value? -/
  sorted : Bool
  /-- The name of the flat array; it asks for one. -/
  flatArray : Option Text
  /-- The name of the entry that bounds a flat array. -/
  bound : Option Text
  /-- The comment on the first line. -/
  comment : Option Text
  deriving DecidableEq, Repr

/-- What is to be done. -/
inductive Task
  /-- Print the path of a header. -/
  | resolve (header : Text) (package : Option Text) (dirs : List Path)
  /-- Run the targets with these names. -/
  | named (names : List Text)
  /-- Run all targets. -/
  | all
  /-- List the targets, in JSON or for reading. -/
  | list (json : Bool)
  /-- Run a target that is not in the settings. -/
  | generate (target : AdHoc)
  deriving DecidableEq, Repr

/-- A task with the switches that belong to every task. -/
structure Invocation where
  /-- The settings file. -/
  settings : Option Path
  /-- Are outputs to be left alone? -/
  dryRun : Bool
  /-- What is to be done. -/
  task : Task
  deriving DecidableEq, Repr

namespace Invocation

/-- The switches that belong to every task. -/
def commonSwitches : List Switch :=
  [⟨"config".toList, some 'c', .value true⟩,
   ⟨"dry-run".toList, none, .mark⟩,
   ⟨"verbose".toList, some 'v', .count⟩,
   ⟨"help".toList, some 'h', .help⟩]

/-- What can stand before the name of the task. -/
def outerForm : Form :=
  ⟨commonSwitches ++ [⟨"version".toList, some 'V', .version⟩], some 0, true⟩

/-- What can follow the name of a task with these switches of its own. -/
def taskForm (own : List Switch) (operandLimit : Option Nat) : Form :=
  ⟨commonSwitches ++ own, operandLimit, false⟩

/-- The switches of the task `resolve`. -/
def resolveSwitches : List Switch :=
  [⟨"package".toList, some 'p', .value false⟩,
   ⟨"include".toList, some 'I', .values true⟩]

/-- The switches of the task `list`. -/
def listSwitches : List Switch := [⟨"format".toList, some 'f', .value false⟩]

/-- The switches of the task `generate`. -/
def generateSwitches : List Switch :=
  [⟨"header".toList, none, .value false⟩,
   ⟨"package".toList, some 'p', .value false⟩,
   ⟨"prefix".toList, none, .value false⟩,
   ⟨"output".toList, some 'o', .value true⟩,
   ⟨"struct-type".toList, none, .value false⟩,
   ⟨"value-type".toList, none, .value false⟩,
   ⟨"array".toList, none, .value false⟩,
   ⟨"sorted".toList, none, .mark⟩,
   ⟨"flat-array".toList, none, .value false⟩,
   ⟨"bound".toList, none, .value false⟩,
   ⟨"comment".toList, none, .value false⟩]

/-- The form of what follows the name of a task. -/
def formOf? (task : Text) : Option Form :=
  if task = "resolve".toList then some (taskForm resolveSwitches (some 1))
  else if task = "run".toList then some (taskForm [] none)
  else if task = "all".toList then some (taskForm [] (some 0))
  else if task = "list".toList then some (taskForm listSwitches (some 0))
  else if task = "generate".toList then some (taskForm generateSwitches (some 0))
  else none

/-- The target that switches spell out.  The two shapes exclude each other, records need the type
of the value and the name of the array, and a bound needs a shape; it does nothing to records. -/
def adHoc? (g : Given) : Option AdHoc := do
  let header ← g.value? "header".toList
  let output ← g.value? "output".toList
  let structType := g.value? "struct-type".toList
  let flatArray := g.value? "flat-array".toList
  let valueType := g.value? "value-type".toList
  let array := g.value? "array".toList
  let bound := g.value? "bound".toList
  guard (structType.isNone || (valueType.isSome && array.isSome && flatArray.isNone))
  guard (bound.isNone || flatArray.isSome || structType.isSome)
  return {
    header, structType, valueType, array, flatArray, bound
    package := g.value? "package".toList
    stem := (g.value? "prefix".toList).getD []
    output := ⟨output⟩
    sorted := g.has "sorted".toList
    comment := g.value? "comment".toList }

/-- The task with the given name and what is given to it. -/
def task? (name : Text) (g : Given) : Option Task :=
  if name = "resolve".toList then
    g.operands.head?.map fun header =>
      .resolve header (g.value? "package".toList) ((g.valuesOf "include".toList).map Path.mk)
  else if name = "run".toList then
    if g.operands.isEmpty then none else some (.named g.operands)
  else if name = "all".toList then some .all
  else if name = "list".toList then
    some (.list ((g.value? "format".toList) = some "json".toList))
  else if name = "generate".toList then (adHoc? g).map .generate
  else none

/-- Whether the words after `help` name a task, or nothing at all. -/
def helpStop : List Text → Stop
  | [] => .help
  | [name] => if (formOf? name).isSome || name = "help".toList then .help else .misuse
  | _ => .misuse

/-- What a command line asks for.  A settings file named after the task counts before one named in
front of it. -/
def ofArguments (args : List Text) : Except Stop Invocation :=
  match outerForm.scan none .empty args with
  | .error stop => .error stop
  | .ok (_, none) => .error .misuse
  | .ok (outer, some (name, rest)) =>
    if name = "help".toList then .error (helpStop rest)
    else
      match formOf? name with
      | none => .error .misuse
      | some form =>
        match form.scan none .empty rest with
        | .error stop => .error stop
        | .ok (inner, _) =>
          match task? name inner with
          | none => .error .misuse
          | some task =>
            .ok {
              settings :=
                ((inner.value? "config".toList).or (outer.value? "config".toList)).map Path.mk
              dryRun := inner.has "dry-run".toList || outer.has "dry-run".toList
              task }

end Invocation

end NameTables
