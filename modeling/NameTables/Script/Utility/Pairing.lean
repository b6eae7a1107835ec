import NameTables.Script.Utility.Version

/-!
# Files beside each other

Programs that compare two sorted files line by line, and that put the lines of several files beside
each other.

## Main definitions

* `Meeting`, `Meeting.steps` — how two sorted files come together.
* `printCommon` — the lines of one file, of the other one, and of both.
* `beside`, `inARow` — lines of several files on one line.
* `printBeside` — the program for that.
-/

namespace NameTables.Script.Utility

/-- The message about a file. -/
def faultText (name : Text) (fault : IoFault) : Text :=
  asShellWord name ++ ": ".toList ++ fault.reason

/-- The lines of a text, each without its end. -/
def linesBetween (stop : Char) (text : Text) : List Text :=
  let (ended, last) := Run.splitEndedLines stop text
  if last.isEmpty then ended else ended ++ [last]

/-! ### Two sorted files -/

/-- How often the lines of two files are compared with those before them. -/
inductive OrderCheck
  /-- Always, and one that is out of order ends all. -/
  | always
  /-- As soon as one of the files has had a line of its own. -/
  | whenApart
  /-- Never. -/
  | never
  deriving DecidableEq

/-- How far two sorted files have come together. -/
structure Meeting where
  /-- What is printed, the last piece first. -/
  printed : List Text
  /-- How many lines only the first file has, only the second one, and both. -/
  counts : Nat × Nat × Nat
  /-- Has one of the files had a line of its own? -/
  apart : Bool
  /-- Was it said that the first file is out of order, or the second one? -/
  warned : Bool × Bool
  /-- Is all over? -/
  halted : Bool

/-- What is printed of two sorted files. -/
structure CommonLines where
  /-- The letters of the columns that are left out. -/
  without : List Char
  /-- What separates columns. -/
  joint : Text
  /-- The end of lines. -/
  stop : Char
  /-- How order is checked. -/
  check : OrderCheck

namespace CommonLines

/-- A line as it is printed, of the first file, of the second one, or of both. -/
def shown (c : CommonLines) (column : Char) (line : Text) : Text :=
  if column ∈ c.without then []
  else
    let before := ['1', '2', '3'].filter fun d => d < column && d ∉ c.without
    before.flatMap (fun _ => c.joint) ++ line ++ [c.stop]

/-- What is said of a file that is out of order, if that has to be said now. -/
def complain (c : CommonLines) (m : Meeting) (second : Bool) (before : Text) (now : Text) :
    Run Meeting := do
  let warned := if second then m.warned.2 else m.warned.1
  let checks := c.check = .always || (c.check = .whenApart && m.apart)
  if checks && !warned && compareTexts before now == .gt then
    let number := if second then "2" else "1"
    Run.say ("file ".toList ++ number.toList ++ " is not in sorted order".toList)
    return { m with
      warned := if second then (m.warned.1, true) else (true, m.warned.2)
      halted := c.check = .always }
  else return m

/-- Go on in a file behind its first line, whose order with those around it is checked; `earlier` is
the line before. -/
def advance (c : CommonLines) (m : Meeting) (second : Bool) (earlier : Option Text) :
    List Text → Run Meeting
  | line :: next :: _ => c.complain m second line next
  | [line] =>
    -- at the end of a file the last lines are looked at once more
    match earlier with
    | some earlier => c.complain m second earlier line
    | none => return m
  | [] => return m

/-- Print the lines of two files, each of them with the line before. -/
def steps (c : CommonLines) : (fuel : Nat) → Meeting → (earlier : Option Text × Option Text) →
    List Text → List Text → Run Meeting
  | 0, m, _, _, _ => return m
  | fuel + 1, m, earlier, first, second => do
    if m.halted || !(← Run.goes) then return m
    let print := fun (column : Char) (line : Text) => do
      Run.print (c.shown column line)
    let (a, b, both) := m.counts
    let order :=
      match first, second with
      | x :: _, y :: _ => some (compareTexts x y)
      | _ :: _, [] => some .lt
      | [], _ :: _ => some .gt
      | [], [] => none
    match order with
    | none => return m
    | some .lt =>
      print '1' (first.headD [])
      let m := { m with counts := (a + 1, b, both), apart := true }
      let m ← c.advance m false earlier.1 first
      steps c fuel m (first.head?, earlier.2) first.tail second
    | some .gt =>
      print '2' (second.headD [])
      let m := { m with counts := (a, b + 1, both), apart := true }
      let m ← c.advance m true earlier.2 second
      steps c fuel m (earlier.1, second.head?) first second.tail
    | some .eq =>
      print '3' (first.headD [])
      let m := { m with counts := (a, b, both + 1) }
      let m ← c.advance m false earlier.1 first
      let m ← if m.halted then pure m else c.advance m true earlier.2 second
      steps c fuel m (first.head?, second.head?) first.tail second.tail

end CommonLines

/-- Print the lines of a file, of another one, and of both. -/
def printCommon : Utility :=
  Usage.program ⟨"123z\x01\x02\x04", "\x03", [("check-order", '\x01'), ("nocheck-order", '\x02'),
    ("output-delimiter", '\x03'), ("total", '\x04'), ("zero-terminated", 'z')]⟩
    fun options names => do
      let stop := if isGiven 'z' options then '\x00' else '\n'
      let joint := ((wordOf? '\x03' options).map fun s => if s.isEmpty then ['\x00'] else s).getD
        ['\t']
      let check : OrderCheck :=
        match (options.filter fun o => o.1 ∈ ['\x01', '\x02']).getLast? with
        | some (c, _) => if c = '\x01' then .always else .never
        | none => .whenApart
      let c : CommonLines := ⟨options.map Prod.fst, joint, stop, check⟩
      match names with
      | [] => modify (·.misuse "missing operand".toList)
      | [name] => modify (·.misuse ("missing operand after ".toList ++ inCurlyQuotes name))
      | _ :: _ :: extra :: _ => modify (·.misuse ("extra operand ".toList ++ inCurlyQuotes extra))
      | [first, second] =>
        match ← Run.contentOf first with
        | .error fault => Run.fail (faultText first fault)
        | .ok x =>
          match ← Run.contentOf second with
          | .error fault => Run.fail (faultText second fault)
          | .ok y =>
            let (x, y) := (linesBetween stop x, linesBetween stop y)
            let start : Meeting := ⟨[], (0, 0, 0), false, (false, false), false⟩
            let m ← c.steps (x.length + y.length + 1) start (none, none) x y
            if m.halted then modify (·.withStatus 1)
            else
              if isGiven '\x04' options then
                let (a, b, both) := m.counts
                Run.print (Text.join joint [Text.ofNat a, Text.ofNat b, Text.ofNat both,
                  "total".toList] ++ [stop])
              if m.warned.1 || m.warned.2 then Run.fail "input is not in sorted order".toList

/-! ### Several files -/

/-- What stands between the lines of files, again and again from the beginning. -/
structure Joints where
  /-- The texts, one after another. -/
  texts : List Text
  /-- The end of lines. -/
  stop : Char

namespace Joints

/-- The texts that a word tells, with escapes; or what is wrong with it. -/
def read (word : Text) : Except Text (List Text) :=
  go word
where
  /-- The texts for what is left of the word. -/
  go : Text → Except Text (List Text)
    | [] => .ok []
    | ['\\'] =>
      .error ("delimiter list ends with an unescaped backslash: ".toList ++ word)
    | '\\' :: c :: rest => do
      let text : Text :=
        match c with
        | '0' => []
        | 'b' => ['\x08']
        | 'f' => ['\x0c']
        | 'n' => ['\n']
        | 'r' => ['\r']
        | 't' => ['\t']
        | 'v' => ['\x0b']
        | c => [c]
      return text :: (← go rest)
    | c :: rest => do return [c] :: (← go rest)

/-- What stands behind the text with a number. -/
def behind (j : Joints) (n : Nat) : Text :=
  if j.texts.isEmpty then [] else (j.texts[n % j.texts.length]?).getD []

/-- Texts with what stands between them, and the end of a line. -/
def line (j : Joints) (texts : List Text) : Text :=
  (texts.zipIdx.flatMap fun (text, n) =>
    text ++ if n + 1 = texts.length then [] else j.behind n) ++ [j.stop]

end Joints

/-- The lines of files beside each other; there are so many at most. -/
def beside (j : Joints) : (fuel : Nat) → List (List Text) → List Text
  | 0, _ => []
  | fuel + 1, files =>
    if files.all (·.isEmpty) then []
    else j.line (files.map (·.headD [])) :: beside j fuel (files.map List.tail)

/-- Every so many of some lines, from one of them on. -/
def everyNth (lines : List Text) (first step : Nat) : List Text :=
  (lines.zipIdx.filter fun (_, n) => n % step = first).map Prod.fst

/-- Print lines of several files beside each other, or all lines of each file in a row. -/
def printBeside : Utility :=
  Usage.program ⟨"sz", "d", [("serial", 's'), ("delimiters", 'd'), ("zero-terminated", 'z')]⟩
    fun options names => do
      let stop := if isGiven 'z' options then '\x00' else '\n'
      match Joints.read ((wordOf? 'd' options).getD ['\t']) with
      | .error said => Run.fail said
      | .ok texts =>
        let j : Joints := ⟨texts, stop⟩
        let names := if names.isEmpty then [['-']] else names
        if isGiven 's' options then
          for name in names do
            match ← Run.contentOf name with
            | .error fault => Run.fail (faultText name fault)
            | .ok text => Run.print (j.line (linesBetween stop text))
        else
          let mut found : List (Text × List Text) := []
          let mut closed := false
          for name in names do
            if !closed && !found.any (·.1 == name) then
              match ← Run.contentOf name with
              | .ok text => found := (name, linesBetween stop text) :: found
              | .error fault =>
                Run.fail (faultText name fault)
                -- a directory can be opened at least
                if fault = .isDirectory then found := (name, []) :: found else closed := true
          if !closed then
            let copies := names.filter (· = ['-'])
            let files := names.zipIdx.map fun (name, n) =>
              let lines := (found.lookup name).getD []
              if name = ['-'] then
                everyNth lines ((names.take n).filter (· = ['-'])).length copies.length
              else lines
            let most := (files.map List.length).foldl max 0
            Run.print (beside j (most + 1) files).flatten

end NameTables.Script.Utility
