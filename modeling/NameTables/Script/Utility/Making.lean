import NameTables.Script.Utility.Copying
import NameTables.Script.Utility.Streams

/-!
# Programs that make files

Files with a name that nobody else has, pipes with a name, and files of a size.

## Main definitions

* `Template`, `Template.name` — names with letters that are made up.
* `makeTemporary` — a file or a directory with such a name.
* `makePipes` — pipes with names.
* `resize` — files of a size.
-/

namespace NameTables.Script.Utility

open Shell (path)

/-! ### Names that are made up -/

/-- A name in which some letters are made up. -/
structure Template where
  /-- What comes first. -/
  lead : Text
  /-- How many letters are made up. -/
  count : Nat
  /-- What comes last. -/
  tail : Text

namespace Template

/-- The letters that are made up. -/
def alphabet : Text :=
  "ABCDEFGHIJKLMNOPQRSTUVWXYZabcdefghijklmnopqrstuvwxyz0123456789".toList

/-- So many letters for a number. -/
def letters : (count : Nat) → (n : Nat) → Text
  | 0, _ => []
  | count + 1, n =>
    -- numbers next to each other have little in common
    let mixed := (n * 2654435761 + 40503) % Nat.pow 2 32
    (alphabet[mixed / 7 % alphabet.length]?).getD 'A' :: letters count mixed

/-- The name that is made up for a number. -/
def name (t : Template) (n : Nat) : Text := t.lead ++ letters t.count n ++ t.tail

/-- The template that a word tells: the last row of letters in it that stand for others is made up. -/
def ofWord (word suffix : Text) : Template :=
  let back := word.reverse
  let tail := back.takeWhile (· ≠ 'X')
  let marks := (back.drop tail.length).takeWhile (· = 'X')
  ⟨(back.drop (tail.length + marks.length)).reverse, marks.length, tail.reverse ++ suffix⟩

end Template

/-- Make a file or a directory with a name that nobody else has. -/
def makeTemporary : Utility :=
  Usage.program ⟨"dqtuV", "p\x01", [("directory", 'd'), ("quiet", 'q'), ("dry-run", 'u'),
    ("tmpdir", 'V'), ("suffix", '\x01')]⟩ fun options names => do
    let s ← get
    let given := fun c => isGiven c options
    let word := names.headD "tmp.XXXXXXXXXX".toList
    let suffix := (wordOf? '\x01' options).getD []
    let template := Template.ofWord word suffix
    let usual := ((s.bindings.get? "TMPDIR".toList).filter (!·.isEmpty)).getD "/tmp".toList
    let told := ((wordOf? 'p' options).or (wordOf? 'V' options)).filter (!·.isEmpty)
    let dir : Option Text :=
      if names.isEmpty || given 't' || given 'p' || given 'V' then some (told.getD usual) else none
    let full := fun name : Text => match dir with | some dir => inside dir name | none => name
    let fail := fun said : Text => do
      if given 'q' then modify (·.withStatus 1) else Run.fail said
    if 1 < names.length then modify (·.misuse "too many templates".toList)
    else if template.count < 3 then
      fail ("too few X's in template ".toList ++ inCurlyQuotes word)
    else
      let what := if given 'd' then "directory" else "file"
      let refuse := fun fault : IoFault =>
        fail ("failed to create ".toList ++ what.toList ++ " via template ".toList
          ++ inCurlyQuotes (full word ++ suffix) ++ ": ".toList ++ fault.reason)
      -- the first name is taken that leads to nothing
      let tries := (List.range 100).map fun i => full (template.name (s.files.latest + 7919 * i))
      match tries.find? fun p => (s.files.nodeAt? (path p)).isNone with
      | none => refuse .alreadyExists
      | some p =>
        match newPlace s.files p with
        | .error fault => if given 'u' then Run.print (p ++ ['\n']) else refuse fault
        | .ok place =>
          if !given 'u' then
            let latest := s.files.latest + 1
            if given 'd' then
              setFiles { s.files.put place (.directory 0o700) with latest }
            else
              let files := { s.files.put place (.file latest) with latest }
              setFiles (files.setState latest ⟨[], 0o600, 0, s.files.now⟩)
          Run.print (p ++ ['\n'])

/-! ### Pipes -/

/-- Make pipes with names. -/
def makePipes : Utility :=
  Usage.program ⟨"Z", "m", [("mode", 'm')]⟩ fun options names => do
    if names.isEmpty then modify (·.misuse "missing operand".toList)
    else if (wordOf? 'm' options).any fun word => (modeChanges? word).isNone then
      Run.fail "invalid mode".toList
    else
      for name in names do
        let s ← get
        let refuse := fun fault : IoFault =>
          Run.fail ("cannot create fifo ".toList ++ inShellQuotes name ++ ": ".toList
            ++ fault.reason)
        match newPlace s.files name with
        | .error fault => refuse fault
        | .ok place =>
          if (s.files.node? place).isSome then refuse .alreadyExists
          else
            let latest := s.files.latest + 1
            modify fun s =>
              let files := { s.files.put place (.pipe latest) with latest }
              { s with toScene := ({ s.toScene with files }).setPipe latest .empty }

/-! ### Sizes -/

/-- The size after a word is applied to another one. -/
def newSize? (word : Text) (size : Nat) : Option Nat :=
  match word with
  | '+' :: rest => (sizeIn? rest).map (size + ·)
  | '-' :: rest => (sizeIn? rest).map (size - ·)
  | '<' :: rest => (sizeIn? rest).map (min size)
  | '>' :: rest => (sizeIn? rest).map (max size)
  | '/' :: rest => (sizeIn? rest).bind fun n => if n = 0 then none else some (size / n * n)
  | '%' :: rest =>
    (sizeIn? rest).bind fun n => if n = 0 then none else some ((size + n - 1) / n * n)
  | word => sizeIn? word

/-- Octets cut, or filled up with zeros, to a size. -/
def resized (size : Nat) (content : Bytes) : Bytes :=
  content.take size ++ List.replicate (size - content.length) 0

/-- Give files a size. -/
def resize : Utility :=
  Usage.program ⟨"co", "rs", [("no-create", 'c'), ("io-blocks", 'o'), ("reference", 'r'),
    ("size", 's')]⟩ fun options names => do
    let s ← get
    let reference := wordOf? 'r' options
    let word := wordOf? 's' options
    match word, reference with
    | none, none =>
      modify (·.misuse ("you must specify either ".toList ++ inCurlyQuotes "--size".toList
        ++ " or ".toList ++ inCurlyQuotes "--reference".toList))
    | _, _ =>
      let base := (reference.bind s.fileAt?).map fun file => file.content.length
      let sizeFor := fun size : Nat =>
        match word with
        | some word => newSize? word (base.getD size)
        | none => base
      match reference, base, sizeFor 0 with
      | some name, none, _ =>
        Run.fail ("cannot stat ".toList ++ inShellQuotes name ++ ": ".toList
          ++ IoFault.notFound.reason)
      | _, _, none =>
        Run.fail ("Invalid number: ".toList ++ inCurlyQuotes (word.getD []))
      | _, _, some _ =>
        if names.isEmpty then modify (·.misuse "missing file operand".toList)
        else
          for name in names do
            let s ← get
            if !(isGiven 'c' options && (s.files.nodeAt? (path name)).isNone) then
              match s.openPath .appending name with
              | .error fault =>
                Run.fail ("cannot open ".toList ++ inShellQuotes name ++ " for writing: ".toList
                  ++ fault.reason)
              | .ok (_, s) =>
                set s
                match s.nodeAt? name with
                | some (.file number) =>
                  match s.files.state? number with
                  | some file =>
                    let content := resized ((sizeFor file.content.length).getD 0) file.content
                    setFiles (s.files.setState number { file with
                      content, changed := s.files.now, revision := file.revision + 1 })
                  | none => pure ()
                | _ => pure ()

end NameTables.Script.Utility
