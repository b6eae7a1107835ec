import NameTables.Script.Format
import NameTables.Script.Interpreter
import NameTables.Script.Utility.Streams

/-!
# Input as arguments

A program that calls another one with what it reads: it takes items from the input, and puts as many
of them behind the words of a command as is allowed, or each of them in place of a mark.

## Main definitions

* `ItemRule`, `ItemRule.next` — items in a text, found character by character.
* `Grouping` — how many items a command gets.
* `passArguments` — the program.
-/

namespace NameTables.Script.Utility

/-! ### Items -/

/-- How items are told in a text. -/
structure ItemRule where
  /-- What separates items; if nothing is told, blanks and ends of lines do, unless they are
  quoted. -/
  separator : Option Char
  /-- Is a whole line one item? -/
  wholeLines : Bool

/-- What the next character is taken for. -/
inductive ItemSpot
  /-- It may begin an item. -/
  | between
  /-- It may belong to an item. -/
  | within
  /-- It stands behind an opening quote. -/
  | quoted (mark : Char)
  /-- It stands behind a backslash. -/
  | escaped

/-- An item that has begun. -/
structure ItemBegun where
  /-- Its characters, the last one first. -/
  word : Text
  /-- What the next character is taken for. -/
  spot : ItemSpot
  /-- The last character. -/
  last : Char

/-- An item. -/
structure Item where
  /-- Its text. -/
  text : Text
  /-- Does a line end behind it? -/
  endsLine : Bool

/-- Nothing has begun. -/
def ItemBegun.nothing : ItemBegun := ⟨[], .between, ' '⟩

/-- The kind of a quote. -/
def quoteName (mark : Char) : Text :=
  if mark = '\'' then "single".toList else "double".toList

namespace ItemRule

/-- One more character; there may be an item that ends with it. -/
def next (r : ItemRule) (b : ItemBegun) (c : Char) : Except Char (ItemBegun × Option Item) :=
  let isBlank := fun c : Char => c = ' ' || c = '\t'
  match r.separator with
  | some stop =>
    if c = stop then .ok (.nothing, some ⟨b.word.reverse, true⟩)
    else .ok (⟨c :: b.word, .within, c⟩, none)
  | none =>
    let inside := fun _ : Unit =>
      if c = '\n' then
        .ok (.nothing, some ⟨b.word.reverse, !isBlank b.last⟩)
      else if isBlank c && !r.wholeLines then .ok (.nothing, some ⟨b.word.reverse, false⟩)
      else if c = '\\' then .ok (⟨b.word, .escaped, c⟩, none)
      else if c = '\'' || c = '\x22' then .ok (⟨b.word, .quoted c, c⟩, none)
      else .ok (⟨c :: b.word, .within, c⟩, none)
    match b.spot with
    | .between => if isBlankChar c then .ok (.nothing, none) else inside ()
    | .within => inside ()
    | .escaped => .ok (⟨c :: b.word, .within, c⟩, none)
    | .quoted mark =>
      if c = '\n' then .error mark
      else if c = mark then .ok (⟨b.word, .within, c⟩, none)
      else .ok (⟨c :: b.word, .quoted mark, c⟩, none)

/-- The items that end in a text, the last one first, and what has begun then; or the quote that
stays open. -/
def items (r : ItemRule) (b : ItemBegun) (s : Text) :
    List Item × Except Char ItemBegun :=
  go b s []
where
  /-- The same, with the items that were found before. -/
  go (b : ItemBegun) : Text → List Item → List Item × Except Char ItemBegun
    | [], found => (found, .ok b)
    | c :: rest, found =>
      match r.next b c with
      | .error mark => (found, .error mark)
      | .ok (b, none) => go b rest found
      | .ok (b, some item) => go b rest (item :: found)

end ItemRule

/-! ### Commands -/

/-- How many items a command gets. -/
inductive Grouping
  /-- As many as there is room for. -/
  | all
  /-- So many. -/
  | items (count : Nat)
  /-- Those of so many lines. -/
  | lines (count : Nat)
  /-- One, in place of a mark. -/
  | one (mark : Text)

/-- What is to be done with items. -/
structure Passing where
  /-- The name of the program. -/
  name : Text
  /-- The words that it gets in any case. -/
  words : List Text
  /-- How many items a command gets. -/
  grouping : Grouping
  /-- How many octets a command may have. -/
  room : Nat
  /-- Is it an error when there is no room for the items of a command? -/
  strict : Bool
  /-- Is nothing done when there are no items? -/
  skipsEmpty : Bool
  /-- Are commands told? -/
  tells : Bool
  /-- The item that ends all. -/
  final : Option Text
  /-- Do the items come from a file, and not from the input? -/
  fromFile : Bool

/-- The items that wait for their command. -/
structure Waiting where
  /-- The items, the last one first. -/
  items : List Text
  /-- How many there are. -/
  count : Nat
  /-- How many octets the command has with them. -/
  size : Nat
  /-- How many lines have ended among them. -/
  lines : Nat
  /-- Has a command been carried out? -/
  used : Bool
  /-- Has the item come that ends all? -/
  ended : Bool

namespace Passing

/-- The octets of words, each with its end. -/
def sizeOfWords (words : List Text) : Nat := total (words.map (·.length + 1))

/-- No item waits. -/
def start (p : Passing) (used : Bool) : Waiting :=
  ⟨[], 0, sizeOfWords (p.name :: p.words), 0, used, false⟩

/-- End with a status. -/
def quit (status : Nat) (said : Text) : Run Unit := modify fun s => (s.failWith status said).quit status

/-- A descriptor that leads to nothing to read. -/
def withoutInput (s : Shell) : Shell :=
  match s.openPath .reading "/dev/null".toList with
  | .ok (id, s) => s.setChannel 0 id
  | .error _ => s

/-- Carry out the command with more words. -/
def carryOut (p : Passing) (words : List Text) : Run Unit := do
  if p.tells then
    let shown := (p.name :: words).map asShellWord
    modify (·.write 2 (Text.join [' '] shown ++ ['\n']))
  let prepare := if p.fromFile then id else withoutInput
  match ← Run.callProgram prepare p.name words with
  | .error fault =>
    quit (if fault = .notFound then 127 else 126) (asShellWord p.name ++ ": ".toList ++ fault.reason)
  | .ok (.killed signal) =>
    quit 125 (asShellWord p.name ++ ": terminated by signal ".toList ++ Text.ofNat signal)
  | .ok (.exited 255) =>
    quit 124 (asShellWord p.name ++ ": exited with status 255; aborting".toList)
  | .ok (.exited status) => if status ≠ 0 then modify (·.withStatus 123)

/-- Carry out the command with the items that wait. -/
def flush (p : Passing) (w : Waiting) : Run Waiting := do
  p.carryOut (p.words ++ w.items.reverse)
  return p.start true

/-- A word with all marks in it replaced. -/
def replaced (mark item : Text) : (fuel : Nat) → Text → Text
  | 0, s => s
  | _, [] => []
  | fuel + 1, c :: s =>
    match if mark.isEmpty then none else Text.dropLead? mark (c :: s) with
    | some rest => item ++ replaced mark item fuel rest
    | none => c :: replaced mark item fuel s

/-- Take one more item, and carry out the command when it has what it gets. -/
def take (p : Passing) (w : Waiting) (item : Item) : Run Waiting := do
  if w.ended || !(← Run.goes) then return w
  if p.final = some item.text then return { w with ended := true }
  match p.grouping with
  | .one mark =>
    if mark.isEmpty then
      quit 1 "command too long".toList
      return w
    let words := p.words.map fun word => replaced mark item.text (word.length + 1) word
    if p.room < sizeOfWords (p.name :: words) then
      quit 1 "argument list too long".toList
      return w
    p.carryOut words
    return p.start true
  | _ =>
    let size := item.text.length + 1
    let isFull := p.room < w.size + size
    if isFull && w.count = 0 then
      quit 1 "argument line too long".toList
      return w
    let isGrouped := match p.grouping with | .all => false | _ => true
    if isFull && p.strict && isGrouped then
      quit 1 "argument list too long".toList
      return w
    let w ← if isFull then p.flush w else pure w
    if !(← Run.goes) then return w
    let w := { w with
      items := item.text :: w.items
      count := w.count + 1
      size := w.size + size
      lines := if item.endsLine then w.lines + 1 else w.lines }
    let isDue : Bool :=
      match p.grouping with
      | .items count => count ≤ w.count
      | .lines count => count ≤ w.lines
      | _ => false
    if isDue then p.flush w else return w

/-- Take items one after another. -/
def takeAll (p : Passing) : Waiting → List Item → Run Waiting
  | w, [] => return w
  | w, item :: rest => do p.takeAll (← p.take w item) rest

/-- Say that a quote stays open, after the items before it have been dealt with. -/
def refuseQuote (p : Passing) (w : Waiting) (mark : Char) : Run Unit := do
  if 0 < w.count then let _ ← p.flush w
  if ← Run.goes then
    quit 1 ("unmatched ".toList ++ quoteName mark
      ++ " quote; by default quotes are special to xargs unless you use the -0 option".toList)

/-- Deal with all items that can be read. -/
def passFrom (p : Passing) (r : ItemRule) (id : Nat) : Run Unit := do
  let found ← Run.eachPiece id (p.start false, ItemBegun.nothing) fun (w, b) text => do
    if w.ended then return (w, b)
    let (items, after) := r.items b text
    let w ← p.takeAll w items.reverse
    match after with
    | .ok b => return (w, b)
    | .error mark =>
      p.refuseQuote w mark
      return (w, .nothing)
  if !(← Run.goes) then return
  let (w, b) := match found with
    | .ok found => found
    | .error (_, found) => found
  if let .quoted mark := b.spot then
    if !b.word.isEmpty then
      p.refuseQuote w mark
      return
  let w ← if b.word.isEmpty then pure w else p.take w ⟨b.word.reverse, false⟩
  if ← Run.goes then
    let isOne := match p.grouping with | .one _ => true | _ => false
    if 0 < w.count || (!w.used && !p.skipsEmpty && !isOne) then
      let _ ← p.flush w

end Passing

/-! ### The program -/

/-- The options that may have a word in the same argument, spelt out, up to the name of a
program. -/
def spelledOut : List Text → List Text
  | [] => []
  | [word] => [spelled word]
  | word :: value :: rest =>
    match word with
    | ['-', c] =>
      if c ∈ "adEILnPs".toList then word :: value :: spelledOut rest
      else if c = '-' then word :: value :: rest
      else spelled word :: spelledOut (value :: rest)
    | '-' :: _ :: _ => spelled word :: spelledOut (value :: rest)
    | _ => word :: value :: rest
where
  /-- An option spelt out. -/
  spelled (word : Text) : Text :=
    let long := fun (name : String) (value : Text) =>
      name.toList ++ if value.isEmpty then [] else '=' :: value
    match word with
    | '-' :: 'e' :: value => long "--eof" value
    | '-' :: 'i' :: value => long "--replace" value
    | '-' :: 'l' :: value => long "--max-lines" value
    | word => word

/-- The usage of the program that makes arguments of its input. -/
def passUsage : Usage :=
  ⟨"0oprtx", "adEILnPs", [("null", '0'), ("arg-file", 'a'), ("delimiter", 'd'), ("eof", 'Y'),
    ("replace", 'Z'), ("max-lines", 'W'), ("max-args", 'n'), ("open-tty", 'o'),
    ("max-procs", 'P'), ("interactive", 'p'), ("no-run-if-empty", 'r'), ("max-chars", 's'),
    ("verbose", 't'), ("exit", 'x')]⟩

/-- The separator that a word tells; or what is wrong with it. -/
def separatorIn (word : Text) : Except Text Char :=
  match word with
  | [c] => .ok c
  | ['\\', c] =>
    match if c = '0' then some '\x00' else escaped? c with
    | some c => .ok c
    | none =>
      .error ("Invalid escape sequence ".toList ++ word ++ " in input delimiter specification.".toList)
  | '\\' :: 'x' :: digits =>
    match digitsValue? 16 digits with
    | some n => .ok (Char.ofNat (n % 256))
    | none => refuse
  | '\\' :: digits =>
    match digitsValue? 8 digits with
    | some n => .ok (Char.ofNat (n % 256))
    | none => refuse
  | _ => refuse
where
  /-- The word tells nothing. -/
  refuse : Except Text Char :=
    .error ("Invalid input delimiter specification ".toList ++ word
      ++ (": the delimiter must be either a single character or an escape sequence "
        ++ "starting with \\.").toList)

/-- The number that a word tells for an option; or what is wrong with it. -/
def countFor (letter : Char) (least : Nat) (word : Text) : Except Text Nat :=
  match numberIn? true word with
  | none =>
    .error ("invalid number \"".toList ++ word ++ "\" for -".toList ++ letter :: " option".toList)
  | some n =>
    if n < least then
      .error ("value ".toList ++ word ++ " for -".toList ++ letter :: " option should be >= ".toList
        ++ Text.ofNat least)
    else .ok n.toNat

/-- The grouping that one more option asks for, and what is said when it takes the place of
another. -/
def groupingAfter (before : Grouping) (option : Char × Text) : Except Text (Grouping × Text) := do
  let (letter, word) := option
  let told := fun (old new : String) =>
    "warning: options ".toList ++ old.toList ++ " and ".toList ++ new.toList
      ++ " are mutually exclusive, ignoring previous ".toList ++ old.toList ++ " value".toList
  let isMark := fun g : Grouping => g matches .one _
  let warn := fun (new : String) (isSame : Grouping → Bool) =>
    if isSame before then []
    else
      match before with
      | .all => []
      | .items _ => told "--max-args" new
      | .lines _ => told "--max-lines" new
      | .one _ => told "--replace" new
  match letter with
  | 'n' =>
    let count ← countFor 'n' 1 word
    if count = 1 && isMark before then return (before, [])
    else return (.items count, warn "--max-args/-n" (· matches .items _))
  | 'L' => return (.lines (← countFor 'L' 1 word), warn "-L" (· matches .lines _))
  | 'W' =>
    let count ← if word.isEmpty then .ok 1 else countFor 'l' 1 word
    return (.lines count, warn "--max-lines/-l" (· matches .lines _))
  | 'I' => return (.one word, warn "--replace/-I/-i" isMark)
  | 'Z' =>
    return (.one (if word.isEmpty then ['\x7b', '\x7d'] else word), warn "--replace/-I/-i" isMark)
  | _ => return (before, [])

/-- The grouping that options ask for, and what is said about them. -/
def groupingOf (options : List (Char × Text)) : Except Text (Grouping × List Text) :=
  options.foldlM (fun (grouping, said) option => do
    let (grouping, more) ← groupingAfter grouping option
    return (grouping, if more.isEmpty then said else said ++ [more])) (.all, [])

/-- How many octets a command usually has at most. -/
def usualRoom : Nat := 131072

/-- Call a program with what is read. -/
def passArguments : Utility := fun args =>
  match passUsage.splitFrom true (spelledOut args) with
  | .error said => modify (·.misuse said)
  | .ok (options, operands) => do
    let given := fun c => isGiven c options
    let separator :=
      match (options.filter fun o => o.1 == '0' || o.1 == 'd').getLast? with
      | none => Except.ok none
      | some ('d', word) => (separatorIn word).map some
      | some _ => .ok (some '\x00')
    let room :=
      match wordOf? 's' options with
      | none => Except.ok usualRoom
      | some word => countFor 's' 1 word
    match separator, groupingOf options, room,
        (wordOf? 'P' options).elim (.ok 0) (countFor 'P' 0) with
    | .error said, _, _, _ => Run.fail said
    | _, .error said, _, _ => modify (·.misuse said)
    | _, _, .error said, _ => modify (·.misuse said)
    | _, _, _, .error said => modify (·.misuse said)
    | .ok separator, .ok (grouping, warnings), .ok room, .ok _ =>
      warnings.forM Run.say
      let words := if operands.isEmpty then ["echo".toList] else operands
      let final := ((options.filter fun o => o.1 == 'E' || o.1 == 'Y').getLast?.map Prod.snd).bind
        fun word => if word.isEmpty then none else some word
      let isOne := grouping matches .one _
      let file := (wordOf? 'a' options).filter (· ≠ ['-'])
      let p : Passing :=
        { name := words.head?.getD []
          words := words.tail
          grouping
          room
          strict := given 'x' || isOne || grouping matches .lines _
          skipsEmpty := given 'r'
          tells := given 't'
          final := if separator.isSome then none else final
          fromFile := file.isSome }
      if !isOne && room < Passing.sizeOfWords words then
        Run.fail "cannot fit single argument within argument list size limit".toList
      else
        match ← Run.withInput (file.getD ['-']) (p.passFrom ⟨separator, isOne⟩) with
        | .ok () => pure ()
        | .error fault =>
          match file with
          | some name =>
            if fault = .isDirectory then
              if !given 'r' && !isOne then p.carryOut p.words
            else
              Run.fail ("Cannot open input file ".toList ++ inCurlyQuotes name ++ ": ".toList
                ++ fault.reason)
          | none =>
            if !given 'r' && !isOne then p.carryOut p.words
            Run.fail "error closing file: Bad file descriptor".toList

end NameTables.Script.Utility
