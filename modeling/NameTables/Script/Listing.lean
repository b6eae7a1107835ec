import NameTables.Script.Options

/-!
# Commands that list what the shell keeps in mind

A shell keeps in mind the words that stand for texts, and the processes that it has started in the
background.

## Main definitions

* `Shell.setAliases`, `Shell.dropAliases` — words that stand for texts.
* `Shell.tellJobs` — the processes in the background.
-/

namespace NameTables.Script.Shell

/-! ### Words that stand for texts -/

/-- The number of rows of the table in which words are kept that stand for texts. -/
def aliasRows : Nat := 39

/-- The row of a word in that table. -/
def aliasRow (name : Text) : Nat :=
  let code := fun c : Char => c.toNat
  (((name.head?.map code).getD 0) * 16 + total (name.map code)) % aliasRows

/-- The words that stand for texts, in the order in which they are listed. -/
def listedAliases (s : Shell) : List (Text × Text) :=
  (List.range aliasRows).flatMap fun row => s.aliases.filter fun entry => aliasRow entry.1 = row

/-- Let a word stand for a text. -/
def setAlias (s : Shell) (name text : Text) : Shell :=
  if s.aliases.any (·.1 == name) then
    { s with aliases := s.aliases.map fun entry => if entry.1 = name then (name, text) else entry }
  else { s with aliases := s.aliases ++ [(name, text)] }

/-- Let words stand for texts, or print for which texts they do. -/
def setAliases (s : Shell) (args : List Text) : Shell :=
  if args.isEmpty then
    (s.withStatus 0).tell (s.listedAliases.flatMap fun entry => aliasText entry.1 entry.2)
  else
    args.foldl (fun s word =>
      -- an equals sign in front belongs to the name
      let name := word.take 1 ++ (word.drop 1).takeWhile (· ≠ '=')
      match word.drop name.length, s.aliases.lookup name with
      | _ :: text, _ => s.setAlias name text
      | [], some text => s.tell (aliasText name text)
      | [], none =>
        (s.write 2 ("alias: ".toList ++ name ++ " not found\n".toList)).withStatus 1)
      (s.withStatus 0)

/-- Let words stand for themselves again. -/
def dropAliases (s : Shell) (args : List Text) : Shell :=
  match optionsIn ['a'] [] args with
  | .error said => s.abort said
  | .ok (options, names) =>
    if isGiven 'a' options then { s with aliases := [] }.withStatus 0
    else
      names.foldl (fun s name =>
        if s.aliases.any (·.1 == name) then
          { s with aliases := s.aliases.filter (·.1 != name) }
        else (s.write 2 ("unalias: ".toList ++ name ++ " not found\n".toList)).withStatus 1)
        (s.withStatus 0)

/-! ### Processes in the background -/

/-- What is known of a process in the background. -/
def jobState (s : Shell) (j : Job) : Text :=
  match s.killed.lookup j.number, s.endedStatus? j.number with
  | some signal, _ => signalWords signal
  | none, none => "Running".toList
  | none, some 0 => "Done".toList
  | none, some status => "Done(".toList ++ Text.ofNat status ++ [')']

/-- The line that tells of a process in the background; the last one and the one before are
marked. -/
def jobText (s : Shell) (withNumber : Bool) (j : Job) : Text :=
  let at? := fun (i : Nat) => (s.jobs[i]?).any (·.place = j.place)
  let mark := if at? 0 then '+' else if at? 1 then '-' else ' '
  let lead := '[' :: Text.ofNat j.place ++ ']' :: ' ' :: mark :: ' '
    :: (if withNumber then Text.ofNat (j.earlier.headD j.number) ++ [' '] else []) ++ s.jobState j
  let others := j.earlier.flatMap fun _ => " | ".toList
  if withNumber then
    -- each of the processes has a line
    let line := fun number : Nat =>
      let text := "       ".toList ++ Text.ofNat number ++ [' ']
      " |\n".toList ++ text ++ Text.padLeft (33 - text.length) [' ']
    let numbers := j.earlier ++ [j.number]
    lead ++ Text.padLeft (33 - lead.length) [' '] ++ (numbers.drop 1).flatMap line ++ ['\n']
  else lead ++ Text.padLeft (33 - lead.length) [' '] ++ others ++ ['\n']

/-- Print what is known of a process in the background.  One that has ended is forgotten. -/
def tellJob (s : Shell) (options : List (Char × Text)) (j : Job) : Shell :=
  match options.getLast?.map Prod.fst with
  | some 'p' => s.tell (Text.ofNat (j.earlier.headD j.number) ++ ['\n'])
  | letter =>
    let s := s.tell (s.jobText (letter = some 'l') j)
    if (s.endedStatus? j.number).isSome then
      { s with jobs := s.jobs.filter (·.place ≠ j.place) }
    else s

/-- Print what is known of processes in the background: of those that are told, or of all. -/
def tellJobs (s : Shell) (args : List Text) : Shell :=
  match optionsIn ['l', 'p'] [] args with
  | .error said => s.abort said
  | .ok (options, []) => s.jobs.foldl (fun s j => s.tellJob options j) (s.notice.withStatus 0)
  | .ok (options, words) =>
    words.foldl (fun s word =>
      if !s.goes then s
      else
        match s.jobAt? word with
        | some j => s.tellJob options j
        | none => s.abort (noJobText word)) (s.notice.withStatus 0)

end NameTables.Script.Shell
