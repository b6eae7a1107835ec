import NameTables.Script.Utility.Arrangement
import NameTables.Script.Utility.State
import NameTables.Script.Utility.Version

/-!
# What is in directories

The program that lists the names in directories, in some order and arrangement, and with what is known
of the files if that is asked for.

## Main definitions

* `Listing` — how things are listed.
* `Listing.sorted`, `Listing.lines` — their order, and the lines for them.
* `Listing.blocks` — what is listed for a directory and those in it.
* `list` — the program.
-/

namespace NameTables.Script.Utility

open Shell (path)

/-- How names are shown. -/
inductive NameStyle
  /-- As they are. -/
  | plain
  /-- With a question mark for what is not shown. -/
  | masked
  /-- With escapes. -/
  | escaped
  /-- With escapes, between quotes. -/
  | quoted
  /-- As a shell understands them. -/
  | word
  /-- The same, always between quotes. -/
  | shell
  deriving DecidableEq

/-- A name as it is shown. -/
def NameStyle.text (style : NameStyle) (name : Text) : Text :=
  let escaped := fun special : Text =>
    (symbolsOf name).flatMap fun c =>
      if c ∈ special then ['\\', c] else if isShown c then octetsOfSymbol c else '\\' :: escapeOf c
  match style with
  | .plain => name
  | .masked => (symbolsOf name).flatMap fun c => if isShown c then octetsOfSymbol c else ['?']
  | .escaped => escaped [' ', '\\']
  | .quoted => '\x22' :: escaped ['\x22', '\\'] ++ ['\x22']
  | .word => asShellWord name
  | .shell => inShellQuotes name

/-- What things are ordered by. -/
inductive ListingOrder
  /-- Nothing. -/
  | none_
  /-- Their names. -/
  | name
  /-- The versions in their names. -/
  | version
  /-- The endings of their names. -/
  | ending
  /-- The lengths of their names. -/
  | length
  /-- The times at which they have changed. -/
  | time
  /-- Their sizes. -/
  | size
  deriving DecidableEq

/-- How things are listed. -/
structure Listing where
  /-- The options. -/
  options : List (Char × Text)
  /-- How names are printed. -/
  arrangement : Arrangement
  /-- What they are printed on. -/
  page : Page
  /-- What they are ordered by. -/
  order : ListingOrder
  /-- How names are shown. -/
  style : NameStyle
  /-- How times are shown: those of the last months, and others. -/
  times : Text × Text

namespace Listing

/-- Is an option given? -/
def has (l : Listing) (c : Char) : Bool := isGiven c l.options

/-- Are things listed with all that is known of them? -/
def isLong (l : Listing) : Bool := l.arrangement = .long

/-- The mark behind a name for what it leads to. -/
def mark (l : Listing) (fs : Files) (node : Node) : Text :=
  -- the last one of these options counts
  match (l.options.filter fun o => o.1 ∈ ['F', 'p', 'Y']).getLast? with
  | none => []
  | some (letter, _) =>
    match node with
    | .directory _ => ['/']
    | .link _ => if letter ≠ 'p' && !l.isLong then ['@'] else []
    | .pipe _ => if letter ≠ 'p' then ['|'] else []
    | .file _ => if letter = 'F' && keep (modeOf fs node) 0o111 ≠ 0 then ['*'] else []
    | .device _ => []

/-- Compare things. -/
def compare (l : Listing) (fs : Files) (a b : Listed) : Ordering :=
  let ending := fun s : Text =>
    if '.' ∈ s then '.' :: (s.reverse.takeWhile (· ≠ '.')).reverse else []
  let first :=
    match l.order with
    | .time => Ord.compare (timeOf fs b.node) (timeOf fs a.node)
    | .size => Ord.compare (sizeOf fs b.node) (sizeOf fs a.node)
    | .ending => compareTexts (ending a.name) (ending b.name)
    | .length => Ord.compare (symbolsOf a.name).length (symbolsOf b.name).length
    | .version => compareVersions a.name b.name
    | _ => .eq
  first.then (compareTexts a.name b.name)

/-- Things in order. -/
def sorted (l : Listing) (fs : Files) (things : List Listed) : List Listed :=
  if l.order = .none_ then things
  else
    let ordered := things.mergeSort fun a b => (l.compare fs a b).isLE
    let ordered := if l.has 'r' then ordered.reverse else ordered
    let leads := fun t : Listed =>
      ((fs.locate (Files.pathOf t.place)).toOption.bind fs.node?).any (·.isDirectory)
    if l.has 'J' then ordered.filter leads ++ ordered.filter (!leads ·) else ordered

/-- A size as it is shown. -/
def shownSize (l : Listing) (n : Nat) : Text :=
  if !l.has 'h' || n < 1024 then Text.ofNat n
  else
    -- the greatest unit that leaves something in front of the point, rounded up
    let unit := (Nat.log2 n) / 10
    let power := Nat.pow 1024 unit
    let letter := ("BKMGTPE".toList[unit]?).getD '?'
    let tenths := (n * 10 + power - 1) / power
    if tenths < 100 then Text.ofNat (tenths / 10) ++ '.' :: Text.ofNat (tenths % 10) ++ [letter]
    else Text.ofNat ((n + power - 1) / power) ++ [letter]

/-- The room that something takes, as it is shown. -/
def shownBlocks (l : Listing) (n : Nat) : Text :=
  if l.has 'h' then l.shownSize (n * 1024) else Text.ofNat n

/-- Names as they are shown, with the numbers of files and the room that they take if these are asked
for. -/
def shownNames (l : Listing) (fs : Files) (things : List Listed) : List Text :=
  let leads := fun (letter : Char) (lead : Listed → Text) =>
    let cells := things.map lead
    let width :=
      if l.arrangement = .commas then 0 else cells.foldl (fun width s => max width s.length) 0
    cells.map fun s => if l.has letter then Text.padLeft width s ++ [' '] else []
  let numbers := leads 'i' fun t => Text.ofNat (numberOf t.node)
  let blocks := leads 's' fun t => l.shownBlocks (blocksOf fs t.node)
  (things.zip (numbers.zip blocks)).map fun (t, number, block) =>
    number ++ block ++ l.style.text t.name ++ l.mark fs t.node

/-- The lines for things with all that is known of them. -/
def longLines (l : Listing) (fs : Files) (things : List Listed) : Text :=
  let owner := if l.has 'n' then "0".toList else "root".toList
  let row := fun t : Listed =>
    (if l.has 'i' then [Text.ofNat (numberOf t.node)] else [])
      ++ (if l.has 's' then [l.shownBlocks (blocksOf fs t.node)] else [])
      ++ [fullLetters fs t.node, Text.ofNat (namesOf fs t.place t.node)]
      ++ (if l.has 'g' then [] else [owner])
      ++ (if l.has 'o' || l.has 'G' then [] else [owner])
      ++ [l.shownSize (sizeOf fs t.node)]
  let rows := things.map row
  let widths := rows.foldl (fun widths cells =>
    (List.range cells.length).map fun i =>
      max ((widths[i]?).getD 0) ((cells[i]?).getD []).length) []
  let lettersAt := (['i', 's'].filter l.has).length
  let isNumber := fun i : Nat => i < lettersAt || i = lettersAt + 1 || i + 1 = widths.length
  let line := fun t : Listed =>
    let cells := (row t).zipIdx.map fun (cell, i) =>
      let width := (widths[i]?).getD 0
      if isNumber i then Text.padLeft width cell else Text.padRight width cell
    let time := timeOf fs t.node
    let isNew := fs.now - time < 15778476 * Duration.perSecond && time ≤ fs.now
    let date := dateText time (if isNew then l.times.1 else l.times.2)
    let target := match t.node with
      | .link target => " -> ".toList ++ l.style.text (octets target)
      | _ => []
    Text.join [' '] cells ++ ' ' :: date ++ ' ' :: l.style.text t.name
      ++ l.mark fs t.node ++ target ++ [l.page.stop]
  things.flatMap line

/-- The lines for things, in order. -/
def lines (l : Listing) (fs : Files) (things : List Listed) : Text :=
  let things := l.sorted fs things
  if l.isLong then l.longLines fs things
  else l.page.text l.arrangement (l.shownNames fs things)

/-- Is a name in a directory passed over? -/
def passesOver (l : Listing) (name : Text) : Bool :=
  let all := l.has 'a' || l.has 'A' || l.has 'f'
  let fits := fun letter : Char =>
    l.options.any fun (c, pattern) => c = letter
      && (name.head? ≠ some '.' || pattern.head? = some '.') && fitsPattern pattern name
  (name.head? = some '.' && !all) || (l.has 'B' && name.getLast? = some '~') || fits 'I'
    || (!all && fits '\x03')

/-- The things in a directory that are listed. -/
def inside (l : Listing) (fs : Files) (place : Place) : List Listed :=
  let own := if l.has 'a' || l.has 'f' then
      [Listed.mk ['.'] place (.directory 0o755),
        ⟨['.', '.'], place.tail, .directory 0o755⟩].map fun t =>
          { t with node := (fs.node? t.place).getD t.node }
    else []
  own ++ (fs.entries place).filterMap fun (child, node) =>
    let name := octets child
    if l.passesOver name then none else some ⟨name, child :: place, node⟩

/-- What is listed for a directory, and if asked for, for those in it, in blocks. -/
def blocks (l : Listing) (fs : Files) (titled : Bool) :
    (depth : Nat) → (dir : Text) → (place : Place) → List Text
  | 0, _, _ => []
  | depth + 1, dir, place =>
    let things := l.inside fs place
    let total :=
      if l.isLong || l.has 's' then
        let n := total (things.map fun t => blocksOf fs t.node)
        "total ".toList ++ l.shownBlocks n ++ [l.page.stop]
      else []
    let block := (if titled then dir ++ ":\n".toList else []) ++ total ++ l.lines fs things
    let below :=
      if l.has 'R' then
        (l.sorted fs things).flatMap fun t =>
          if t.node.isDirectory && t.name ≠ ['.'] && t.name ≠ ['.', '.'] then
            blocks l fs titled depth (Utility.inside dir t.name) t.place
          else []
      else []
    block :: below

end Listing

/-! ### Options -/

/-- The letters for which a long name of an option stands. -/
def listingNames : List (String × Char) :=
  [("all", 'a'), ("almost-all", 'A'), ("directory", 'd'), ("human-readable", 'h'), ("inode", 'i'),
    ("recursive", 'R'), ("reverse", 'r'), ("size", 's'), ("numeric-uid-gid", 'n'),
    ("classify", 'F'), ("dereference", 'L'), ("quote-name", 'Q'), ("escape", 'b'),
    ("no-group", 'G'), ("literal", 'N'), ("hide-control-chars", 'q'), ("ignore-backups", 'B'),
    ("kibibytes", 'k'), ("ignore", 'I'), ("tabsize", 'T'), ("width", 'w'), ("color", 'K'),
    ("group-directories-first", 'J'), ("file-type", 'Y'), ("full-time", 'e'), ("zero", 'z'),
    ("format", '\x01'), ("sort", '\x02'), ("hide", '\x03'), ("time-style", '\x04'),
    ("indicator-style", '\x05'), ("quoting-style", '\x06')]

namespace Listing

/-- The times by a style. -/
def timesOf (style : Text) : Except Text (Text × Text) :=
  let both := fun format : String => (format.toList, format.toList)
  let style := match Text.dropLead? "posix-".toList style with
    | some rest => rest
    | none => style
  match style with
  | '+' :: format => .ok (format, format)
  | _ =>
    match choiceOf "time style" [["full-iso"], ["long-iso"], ["iso"], ["locale"]] style with
    | .ok 0 => .ok (both "%F %T.%N %z")
    | .ok 1 => .ok (both "%F %H:%M")
    | .ok 2 => .ok ("%m-%d %H:%M".toList, "%F ".toList)
    | .ok _ => .ok ("%b %e %H:%M".toList, "%b %e  %Y".toList)
    | .error _ =>
      .error ("invalid argument ".toList ++ inCurlyQuotes style ++ " for ".toList
        ++ inCurlyQuotes "time style".toList ++ ("\nValid arguments are:\n  - [posix-]full-iso\n"
          ++ "  - [posix-]long-iso\n  - [posix-]iso\n  - [posix-]locale\n"
          ++ "  - +FORMAT (e.g., +%H:%M) for a 'date'-style format").toList)

/-- Take an option into account; or tell what is wrong with it, with the status if that is said of its
use. -/
def taking (l : Listing) (option : Char × Text) : Except (Text × Option Nat) Listing := do
  let (letter, word) := option
  let among := fun (name : String) (choices : List (List String)) =>
    (choiceOf name choices word).mapError fun said => (said, some 1)
  let length := fun what : String =>
    match numberIn? false word with
    | some n => Except.ok n.toNat
    | none => .error (("invalid ".toList ++ what.toList ++ ": ".toList ++ inCurlyQuotes word), none)
  let l := { l with options := l.options ++ [option] }
  let arranged := fun a : Arrangement => { l with arrangement := a }
  let ordered := fun o : ListingOrder => { l with order := o }
  let styled := fun s : NameStyle => { l with style := s }
  match letter with
  | '1' => return if l.isLong then l else arranged .single
  | 'C' => return arranged (.columns true)
  | 'x' => return arranged (.columns false)
  | 'm' => return arranged .commas
  | 'l' | 'g' | 'o' | 'n' => return arranged .long
  | 't' => return ordered .time
  | 'S' => return ordered .size
  | 'X' => return ordered .ending
  | 'v' => return ordered .version
  | 'f' | 'U' => return ordered .none_
  | 'N' => return styled .plain
  | 'q' => return styled .masked
  | 'b' => return styled .escaped
  | 'Q' => return styled .quoted
  | 'z' => return { l with page := { l.page with stop := '\x00' } }
  | 'e' => return { l with arrangement := .long, times := (← (timesOf "full-iso".toList).mapError
      fun said => (said, some 2)) }
  | 'w' => return { l with page := { l.page with room := ← length "line width" } }
  | 'T' => return { l with page := { l.page with tab := ← length "tab size" } }
  | '\x01' =>
    match ← among "--format" [["verbose", "long"], ["commas"], ["horizontal", "across"],
      ["vertical"], ["single-column"]] with
    | 0 => return arranged .long
    | 1 => return arranged .commas
    | 2 => return arranged (.columns false)
    | 3 => return arranged (.columns true)
    | _ => return arranged .single
  | '\x02' =>
    match ← among "--sort" [["none"], ["time"], ["size"], ["extension"], ["version"],
      ["width"]] with
    | 0 => return ordered .none_
    | 1 => return ordered .time
    | 2 => return ordered .size
    | 3 => return ordered .ending
    | 4 => return ordered .version
    | _ => return ordered .length
  | '\x04' => return { l with times := ← (timesOf word).mapError fun said => (said, some 2) }
  | '\x05' =>
    let letters := match ← among "--indicator-style" [["none"], ["slash"], ["file-type"],
        ["classify"]] with
      | 0 => []
      | 1 => ['p']
      | 2 => ['Y']
      | _ => ['F']
    return { l with options := (l.options.filter (·.1 ∉ ['F', 'p', 'Y']))
      ++ letters.map fun c => (c, []) }
  | '\x06' =>
    match ← among "--quoting-style" [["literal"], ["shell"], ["shell-always"], ["shell-escape"],
      ["shell-escape-always"], ["c"], ["c-maybe"], ["escape"]] with
    | 0 => return styled .plain
    | 1 | 3 => return styled .word
    | 2 | 4 => return styled .shell
    | 7 => return styled .escaped
    | _ => return styled .quoted
  | _ => return l

end Listing

/-- List the names in directories, and the files that are named. -/
def list : Utility :=
  Usage.programOr ⟨"1aAbBcCdfFgGhHiklLmnNopqQrRsStuUvxXZ", "ITw\x01\x02\x03\x04\x05\x06",
    listingNames⟩ 2 fun options names => do
    let s ← get
    let room := ((s.bindings.get? "COLUMNS".toList).bind (numberIn? false ·)).getD 80
    let usual : Listing :=
      ⟨[], .single, ⟨room.toNat, 8, '\n'⟩, .name, .plain,
        ("%b %e %H:%M".toList, "%b %e  %Y".toList)⟩
    match options.foldlM Listing.taking usual with
    | .error (said, some status) => modify (·.misuseWith status said)
    | .error (said, none) => modify (·.failWith 2 said)
    | .ok l =>
      -- a time that is asked for is what things are ordered by, unless it is shown
      let isTimed := (l.has 'c' || l.has 'u') && !l.isLong
        && !options.any fun o => o.1 ∈ ['t', 'S', 'X', 'v', 'f', 'U', '\x02']
      let l := if isTimed then { l with order := .time } else l
      let follows := l.has 'L' || l.has 'H' || !(l.isLong || l.has 'd' || l.has 'F')
      let listed := if names.isEmpty then [['.']] else names
      let mut found : List Listed := []
      for name in listed do
        let placed := s.files.locateBy follows (path name)
        let place :=
          match placed with
          | .ok place =>
            -- a link that leads nowhere is listed itself
            if (s.files.node? place).isSome then placed
            else if l.has 'L' then .error .notFound else s.files.locateLink (path name)
          | .error _ => if l.has 'L' then placed else s.files.locateLink (path name)
        let refuse := fun fault : IoFault => do
          Run.say ("cannot access ".toList ++ inShellQuotes name ++ ": ".toList ++ fault.reason)
          modify (·.withStatus 2)
        match place with
        | .error fault => refuse fault
        | .ok place =>
          match s.files.node? place with
          | none => refuse .notFound
          | some node => found := found ++ [⟨name, place, node⟩]
      let isEntered := fun t : Listed => t.node.isDirectory && !l.has 'd'
      let files := found.filter (!isEntered ·)
      let dirs := l.sorted s.files (found.filter isEntered)
      let titled := 1 < listed.length || l.has 'R'
      let first := if files.isEmpty then [] else [l.lines s.files files]
      let others := dirs.flatMap fun t => l.blocks s.files titled 1000 t.name t.place
      Run.print (Text.join ['\n'] (first ++ others))

end NameTables.Script.Utility
