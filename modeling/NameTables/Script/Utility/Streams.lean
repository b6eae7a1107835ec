import NameTables.Script.Utility.Basic

/-!
# Programs for whole files

The programs that print files or parts of them, one after another, and count what is in them.

## Main definitions

* `Rendering.text` — text as it is shown with numbers and marks.
* `printFiles`, `printBackwards`, `printReversed`, `printNumbered` — whole files.
* `printHead`, `printTail` — their beginnings and ends.
* `copyInput` — a copy of the input.
* `countParts` — how much is in files.
-/

namespace NameTables.Script.Utility

/-! ### Whole files -/

/-- How text is shown. -/
structure Rendering where
  /-- Are lines numbered? -/
  numbers : Bool
  /-- Are only lines numbered that are not empty? -/
  skipsEmpty : Bool
  /-- Is only one of several empty lines shown? -/
  squeezes : Bool
  /-- Are the ends of lines marked? -/
  marksEnds : Bool
  /-- Are tabs marked? -/
  marksTabs : Bool
  /-- Are other unusual characters marked? -/
  marksOthers : Bool

/-- How far the showing of text has come. -/
structure Shown where
  /-- What is shown, in pieces, the last one first. -/
  pieces : List Text
  /-- How many lines have ended one after another; none within a line. -/
  ends : Nat
  /-- The number of the last line. -/
  number : Nat
  /-- Has a carriage return come last that is not shown yet? -/
  returned : Bool

namespace Rendering

/-- Is the text shown as it is? -/
def isPlain (r : Rendering) : Bool :=
  !(r.numbers || r.squeezes || r.marksEnds || r.marksTabs || r.marksOthers)

/-- A character as it is shown. -/
def character (r : Rendering) (c : Char) : Text :=
  if c = '\t' then if r.marksTabs then "^I".toList else [c]
  else if !r.marksOthers then [c]
  else
    let n := c.toNat
    let (lead, n) := if 128 ≤ n then ("M-".toList, n - 128) else ([], n)
    lead ++ if n < 32 then ['^', Char.ofNat (n + 64)]
      else if n = 127 then "^?".toList
      else [Char.ofNat n]

/-- The number in front of a line. -/
def label (n : Nat) : Text := Text.padLeft 6 (Text.ofNat n) ++ ['\t']

/-- One more character is shown. -/
def next (r : Rendering) (shown : Shown) (c : Char) : Shown :=
  if c = '\n' then
    let isEmpty := 0 < shown.ends && !shown.returned
    if isEmpty && r.squeezes && 2 ≤ shown.ends then shown
    else
      let numbered := isEmpty && r.numbers && !r.skipsEmpty
      let number := if numbered then shown.number + 1 else shown.number
      let piece := (if numbered then label number else [])
        ++ (if shown.returned then if r.marksEnds then "^M".toList else ['\r'] else [])
        ++ if r.marksEnds then "$\n".toList else ['\n']
      ⟨piece :: shown.pieces, if isEmpty then shown.ends + 1 else 1, number, false⟩
  else
    let numbered := 0 < shown.ends && r.numbers && !shown.returned
    let number := if numbered then shown.number + 1 else shown.number
    let lead := (if shown.returned then r.character '\r' else [])
      ++ if numbered then label number else []
    if c = '\r' && r.marksEnds then
      ⟨lead :: shown.pieces, 0, number, true⟩
    else ⟨(lead ++ r.character c) :: shown.pieces, 0, number, false⟩

/-- Nothing is shown yet. -/
def start : Shown := ⟨[], 1, 0, false⟩

/-- More text is shown; what there was before is not kept. -/
def text (r : Rendering) (shown : Shown) (s : Text) : Text × Shown :=
  let after := s.foldl r.next { shown with pieces := [] }
  (after.pieces.reverse.flatten, after)

end Rendering

/-- Is this the file that is written, and is there something of it left that would be read? -/
def isOutput (s : Shell) (id : Nat) : Bool :=
  match s.toScene.opened? id, s.openedAt? 1 with
  | some source, some target =>
    match source.target, target.target with
    | .file a, .file b =>
      a = b && source.offset <
        (if target.appends then (s.files.content a).length else target.offset)
    | _, _ => false
  | _, _ => false

/-- Print files one after another. -/
def printFiles : Utility :=
  Usage.program ⟨"AbeEnstTuv", "", [("show-all", 'A'), ("number-nonblank", 'b'),
    ("show-ends", 'E'), ("number", 'n'), ("squeeze-blank", 's'), ("show-tabs", 'T'),
    ("show-nonprinting", 'v')]⟩ fun options names => do
    let given := fun letters : String => letters.toList.any (isGiven · options)
    let rendering : Rendering :=
      ⟨given "nb", given "b", given "s", given "AeE", given "AtT", given "Aetv"⟩
    let s ← get
    if (s.channel? 1).isNone then Run.fail "standard output: Bad file descriptor".toList
    else
      let mut shown : Shown := Rendering.start
      for name in if names.isEmpty then [['-']] else names do
        if !(← Run.goes) then break
        let use : Nat → Run (Except (IoFault × Shown) Shown) := fun id => do
          if isOutput (← get) id then
            Run.fail (asShellWord name ++ ": input file is output file".toList)
            return .ok shown
          else
            Run.eachPiece id shown fun shown text => do
              if rendering.isPlain then
                Run.print text
                return shown
              else
                let (found, shown) := rendering.text shown text
                Run.print found
                return shown
        let refuse := fun fault : IoFault =>
          Run.fail (asShellWord name ++ ": ".toList ++ fault.reason)
        match ← Run.withInput name use with
        | .ok (.ok after) => shown := after
        | .ok (.error (fault, after)) =>
          refuse fault
          shown := after
        | .error fault => refuse fault
      if shown.returned then Run.print ['\r']
      if names.isEmpty || ['-'] ∈ names then
        if ((← get).channel? 0).isNone then
          Run.fail "closing standard input: Bad file descriptor".toList

/-- The pieces of a text that end in a separator, each with it; in front of it if `before` says
so. -/
def piecesOf (separator : Text) (before : Bool) (s : Text) : List Text :=
  go s.length s [] []
where
  /-- The pieces of a text of so many characters at most, behind those that were `found`; the
  beginning of the present one is `piece`, and both are turned around. -/
  go : (fuel : Nat) → (rest piece : Text) → (found : List Text) → List Text
    | fuel + 1, c :: rest, piece, found =>
      match if separator.isEmpty then none else Text.dropLead? separator (c :: rest) with
      | some after =>
        if before then go fuel after separator.reverse (piece.reverse :: found)
        else go fuel after [] ((piece.reverse ++ separator) :: found)
      | none => go fuel rest (c :: piece) found
    | _, _, piece, found => (if piece.isEmpty then found else piece.reverse :: found).reverse

/-- Print the lines of files, the last one first. -/
def printBackwards : Utility :=
  Usage.program ⟨"br", "s", [("before", 'b'), ("regex", 'r'), ("separator", 's')]⟩
    fun options names => do
      let separator := (wordOf? 's' options).getD ['\n']
      for name in if names.isEmpty then [['-']] else names do
        match ← Run.contentOf name with
        | .ok text =>
          Run.print (piecesOf separator (isGiven 'b' options) text).reverse.flatten
        | .error .isDirectory =>
          Run.fail (asShellWord name ++ ": read error: Invalid argument".toList)
        | .error fault =>
          Run.fail ("failed to open ".toList ++ inShellQuotes name ++ " for reading: ".toList
            ++ fault.reason)

/-- Print files with the characters of each line in reverse order. -/
def printReversed : Utility :=
  Usage.program ⟨"0", "", [("zero", '0')]⟩ fun _ names => do
    for name in if names.isEmpty then [['-']] else names do
      match ← Run.contentOf name with
      | .ok text =>
        let turned := fun line : Text =>
          let (body, stop) :=
            if line.getLast? = some '\n' then (line.dropLast, ['\n']) else (line, [])
          octetsOf (symbolsOf body).reverse ++ stop
        Run.print ((linesOf text).flatMap turned)
      | .error .isDirectory => return
      | .error fault =>
        Run.fail ("cannot open ".toList ++ name ++ ": ".toList ++ fault.reason)

/-- Print files with their lines numbered. -/
def printNumbered : Utility :=
  Usage.program ⟨"p", "bdfhilnsvw", [("body-numbering", 'b'), ("header-numbering", 'h'),
    ("footer-numbering", 'f'), ("section-delimiter", 'd'), ("line-increment", 'i'),
    ("join-blank-lines", 'l'), ("number-format", 'n'), ("number-separator", 's'),
    ("starting-line-number", 'v'), ("number-width", 'w')]⟩ fun options names => do
    let number := fun (letter : Char) (usual : Int) =>
      ((wordOf? letter options).bind (numberIn? true)).getD usual
    let width := (number 'w' 6).toNat
    let separator := (wordOf? 's' options).getD ['\t']
    let form := (wordOf? 'n' options).getD "rn".toList
    let style := (wordOf? 'b' options).getD ['t']
    let label := fun n : Int =>
      let digits := Text.ofInt n
      if form = "ln".toList then Text.padRight width digits
      else if form = "rz".toList then
        let zeros := List.replicate (width - digits.length) '0'
        if n < 0 then '-' :: zeros ++ digits.tail else zeros ++ digits
      else Text.padLeft width digits
    if style ∉ [['a'], ['t'], ['n']] then
      modify (·.misuse ("invalid body numbering style: ".toList ++ inCurlyQuotes style))
    else
      let mut n := number 'v' 1
      for name in if names.isEmpty then [['-']] else names do
        match ← Run.contentOf name with
        | .ok text =>
          let mut pieces : List Text := []
          for line in linesIn text do
            if style = ['a'] || (style = ['t'] && !line.isEmpty) then
              pieces := (label n ++ separator ++ line ++ ['\n']) :: pieces
              n := n + number 'i' 1
            else
              pieces := (List.replicate (width + separator.length) ' ' ++ line ++ ['\n']) :: pieces
          Run.print pieces.reverse.flatten
        | .error fault => Run.fail (asShellWord name ++ ": ".toList ++ fault.reason)

/-- Copy the input to the output and to files. -/
def copyInput : Utility :=
  Usage.program ⟨"aip", "", [("append", 'a'), ("ignore-interrupts", 'i')]⟩
    fun options names => do
      let purpose : Shell.Purpose := if isGiven 'a' options then .appending else .writing
      let mut targets : List (Text × Nat) := []
      for name in names do
        let s ← get
        match s.openPath purpose name with
        | .ok (id, s) =>
          let descriptor := s.freeDescriptor
          set (s.setChannel descriptor id)
          targets := targets ++ [(name, descriptor)]
        | .error fault => Run.fail (asShellWord name ++ ": ".toList ++ fault.reason)
      match (← get).channel? 0 with
      | none => Run.fail "read error: Bad file descriptor".toList
      | some id =>
        let _ ← Run.eachPiece id targets fun targets text => do
          Run.printAs "'standard output'" 1 text
          let mut left := []
          for (name, descriptor) in targets do
            match (← get).put descriptor text with
            | (none, s) =>
              set s
              Run.makeRoom
              left := left ++ [(name, descriptor)]
            | (some fault, s) =>
              set s
              Run.fail (asShellWord name ++ ": ".toList ++ fault.reason)
          return left

/-! ### Parts of files -/

/-- A number of lines or octets, with a sign. -/
structure Amount where
  /-- Are octets counted? -/
  octets : Bool
  /-- The sign. -/
  sign : Option Char
  /-- The number. -/
  number : Nat

/-- How many units a letter behind a number stands for. -/
def unitOf? (unit : Text) : Option Nat :=
  let power := fun c : Char => ("KMGTPEZY".toList.findIdx? (· = c)).map (· + 1)
  match unit with
  | [] => some 1
  | ['b'] => some 512
  | ['k'] => some 1024
  | ['m'] => some (1024 * 1024)
  | ['k', 'B'] => some 1000
  | [c] => (power c).map (Nat.pow 1024 ·)
  | [c, 'B'] => (power c).map (Nat.pow 1000 ·)
  | [c, 'i', 'B'] => (power c).map (Nat.pow 1024 ·)
  | _ => none

/-- The number that digits with a unit tell. -/
def sizeIn? (word : Text) : Option Nat :=
  match digitsLead? 10 word with
  | some (n, unit) => (unitOf? unit).map (n * ·)
  | none => if word.isEmpty then none else unitOf? word

/-- The amount that the options tell; ten lines if they tell none. -/
def amountOf (options : List (Char × Text)) : Except Text Amount :=
  match (options.filter fun o => o.1 == 'n' || o.1 == 'c').getLast? with
  | none => .ok ⟨false, none, 10⟩
  | some (letter, word) =>
    let octets := letter = 'c'
    let (sign, digits) :=
      match word with
      | '+' :: digits => (some '+', digits)
      | '-' :: digits => (some '-', digits)
      | digits => (none, digits)
    match if (digits.head?.map Char.isDigit).getD false then sizeIn? digits else none with
    | some n => .ok ⟨octets, sign, n⟩
    | none =>
      .error ("invalid number of ".toList ++ (if octets then "bytes".toList else "lines".toList)
        ++ ": ".toList ++ inCurlyQuotes digits)

/-- The arguments with a number behind a sign in front made an option of its own.  Only a hyphen is
a sign unless `plus` says otherwise. -/
def withAmount (plus : Bool) (args : List Text) : List Text :=
  match args with
  | (sign :: c :: more) :: rest =>
    if (sign = '-' || (plus && sign = '+')) && c.isDigit then
      let digits := (c :: more).takeWhile Char.isDigit
      let letters := (c :: more).drop digits.length
      let unit := letters.takeWhile (· ∈ ['b', 'k', 'm'])
      let others := (letters.drop unit.length).filter (· ≠ 'l')
      let octets := !unit.isEmpty || 'c' ∈ others
      let lead := if sign = '+' then ['+'] else []
      ['-', if octets then 'c' else 'n'] :: (lead ++ digits ++ unit)
        :: (others.filter (· ≠ 'c')).map (['-', ·]) ++ rest
    else args
  | args => args

/-- The usage of the programs for parts of files. -/
def partUsage : Usage :=
  ⟨"qvzfFr", "ncs", [("lines", 'n'), ("bytes", 'c'), ("quiet", 'q'), ("silent", 'q'),
    ("verbose", 'v'), ("zero-terminated", 'z'), ("follow", 'f'), ("retry", 'r'), ("sleep", 's')]⟩

/-- Print a part of each file, under its name if there are several. -/
def printParts (plus : Bool) (part : (stop : Char) → Amount → (id : Nat) →
    Run (Except IoFault Unit)) (follow : (id : Nat) → Run Unit) : Utility := fun args =>
  partUsage.program (fun options names => do
    match amountOf options with
    | .error said => Run.fail said
    | .ok amount =>
      let listed := if names.isEmpty then [['-']] else names
      let titled := isGiven 'v' options || (1 < listed.length && !isGiven 'q' options)
      let stop := if isGiven 'z' options then '\x00' else '\n'
      let follows := isGiven 'f' options || isGiven 'F' options
      let mut first := true
      for name in listed do
        if !(← Run.goes) then break
        let title :=
          if titled then
            (if first then [] else ['\n']) ++ "==> ".toList
              ++ (if name = ['-'] then "standard input".toList else name) ++ " <==\n".toList
          else []
        let found ← Run.withInput name fun id => do
          Run.print title
          match ← part stop amount id with
          | .ok () =>
            if follows && listed.getLast? = some name then follow id
          | .error fault =>
            Run.fail ("error reading ".toList ++ inShellQuotes name ++ ": ".toList
              ++ fault.reason)
        match found with
        | .ok () => first := false
        | .error fault =>
          Run.fail ("cannot open ".toList ++ inShellQuotes name ++ " for reading: ".toList
            ++ fault.reason)) (withAmount plus args)

/-- The beginning of a text with so many lines, what follows it, and how many lines are missing. -/
def splitLines (stop : Char) (count : Nat) (s : Text) : Text × Text × Nat :=
  go count s []
where
  /-- The same, with what was taken already turned around. -/
  go : (count : Nat) → Text → (taken : Text) → Text × Text × Nat
    | 0, s, taken => (taken.reverse, s, 0)
    | count, [], taken => (taken.reverse, [], count)
    | count + 1, c :: s, taken => go (if c = stop then count else count + 1) s (c :: taken)

/-- How much is read at once where not all is needed. -/
def partChunk : Nat := 8192

/-- Print as many lines or octets as are still wanted; what was read without need is given back. -/
def printLead (stop : Char) (octets : Bool) (id : Nat) : (fuel wanted : Nat) →
    Run (Except IoFault Unit)
  | 0, _ => return .ok ()
  | fuel + 1, wanted => do
    if wanted = 0 || !(← Run.goes) then return .ok ()
    match ← Run.readFrom id (if octets then min partChunk wanted else partChunk) Run.readLimit with
    | .error fault => return .error fault
    | .ok [] => return .ok ()
    | .ok text =>
      if octets then
        Run.print text
        printLead stop octets id fuel (wanted - text.length)
      else
        let (taken, rest, missing) := splitLines stop wanted text
        if !rest.isEmpty then modify fun s => { s with toScene := s.toScene.giveBack id rest }
        Run.print taken
        printLead stop octets id fuel missing

/-- The lines of a text, each with its end, which is a given character. -/
def linesEnded (stop : Char) (s : Text) : List Text :=
  s.foldr (fun c lines => if c = stop then [c] :: lines else consFirst c lines) []

/-- Print the beginning of each file. -/
def printHead : Utility :=
  printParts false (fun stop amount id => do
    if amount.sign = some '-' then
      match ← Run.readAllFrom id with
      | .error fault => return .error fault
      | .ok text =>
        if amount.octets then Run.print (text.take (text.length - amount.number))
        else
          let lines := linesEnded stop text
          Run.print (lines.take (lines.length - amount.number)).flatten
        return .ok ()
    else printLead stop amount.octets id Run.readLimit amount.number) fun _ => return

/-- The time between two looks at a file that is followed. -/
def followTime : Nat := Duration.perSecond

/-- Print the end of each file. -/
def printTail : Utility :=
  printParts true (fun stop amount id => do
    let isFile :=
      match ((← get).toScene.opened? id).map Opened.target with
      | some (.file _) => true
      | _ => false
    if amount.sign = some '+' then
      -- what is passed over is read too
      let skipped := amount.number - 1
      let text ← Run.readAllFrom id
      match text with
      | .error fault => return .error fault
      | .ok text =>
        Run.print (if amount.octets then text.drop skipped
          else (splitLines stop skipped text).2.1)
        return .ok ()
    else if amount.number = 0 && isFile then return .ok ()
    else
      match ← Run.readAllFrom id with
      | .error fault => return .error fault
      | .ok text =>
        if amount.octets then Run.print (text.drop (text.length - amount.number))
        else
          let lines := linesEnded stop text
          Run.print (lines.drop (lines.length - amount.number)).flatten
        return .ok ()) fun id => do
    repeatWhile (fun (_ : Unit) => do
      match ← Run.readAllFrom id with
      | .ok text => Run.print text
      | .error _ => pure ()
      Run.pass followTime
      return if ← Run.goes then some () else none) (← get).stepsLeft ()

/-! ### Measures -/

/-- How much is in a text. -/
structure Measures where
  /-- The number of line ends. -/
  lines : Nat
  /-- The number of words. -/
  words : Nat
  /-- The number of characters. -/
  symbols : Nat
  /-- The number of octets. -/
  octets : Nat
  /-- The width of the widest line. -/
  width : Nat

namespace Measures

/-- The measures of nothing. -/
def zero : Measures := ⟨0, 0, 0, 0, 0⟩

/-- The measures of two texts together. -/
def add (a b : Measures) : Measures :=
  ⟨a.lines + b.lines, a.words + b.words, a.symbols + b.symbols, a.octets + b.octets,
    max a.width b.width⟩

/-- Does a character stand between words? -/
def isSpace (c : Char) : Bool :=
  isBlankChar c || c.toNat ∈ [0xa0, 0x1680, 0x2028, 0x2029, 0x202f, 0x205f, 0x2060, 0x3000]
    || (0x2000 ≤ c.toNat && c.toNat ≤ 0x200a)

/-- The widths of the lines of a text. -/
def widthOf (s : Text) : Nat :=
  let (widest, width) := s.foldl (fun (widest, width) c =>
    if c = '\n' || c = '\r' || c = '\x0c' then (max widest width, 0)
    else if c = '\t' then (widest, width / 8 * 8 + 8)
    else if c < ' ' || !isShown c then (widest, width)
    else (widest, width + 1)) ((0, 0) : Nat × Nat)
  max widest width

/-- The measures of a text. -/
def of (s : Text) : Measures :=
  let symbols := symbolsOf s
  let (words, _) := symbols.foldl (fun (n, inside) c =>
    if isSpace c then (n, false)
    else if isStray c || c < ' ' then (n, inside)
    else (if inside then n else n + 1, true)) ((0, false) : Nat × Bool)
  ⟨s.count '\n', words, (symbols.filter (!isStray ·)).length, s.length, widthOf symbols⟩

/-- The measures that are asked for by letters. -/
def chosen (letters : List Char) (m : Measures) : List Nat :=
  [('l', m.lines), ('w', m.words), ('m', m.symbols), ('c', m.octets), ('L', m.width)].filterMap
    fun (letter, n) => if letter ∈ letters then some n else none

end Measures

/-- Print how many lines, words and octets are in each file. -/
def countParts : Utility :=
  Usage.program ⟨"lwcmL", "F", [("lines", 'l'), ("words", 'w'), ("bytes", 'c'), ("chars", 'm'),
    ("max-line-length", 'L'), ("files0-from", 'F')]⟩ fun options names => do
    let letters := if options.isEmpty then ['l', 'w', 'c'] else options.map Prod.fst
    let listed := if names.isEmpty then [['-']] else names
    let s ← get
    let nodes := listed.map fun name =>
      if name = ['-'] then (s.openedAt? 0).map fun o => s.nodeOf o.target else s.nodeAt? name
    let size := nodes.foldl (fun n node =>
      match node with
      | some (.file number) => n + (s.files.content number).length
      | _ => n) 0
    let isOther := fun node : Option Node =>
      match node with
      | some (.file _) => false
      | some _ => true
      | none => false
    -- numbers are as wide as the greatest one can be, which is not always known beforehand
    let width :=
      if listed.length = 1 && letters.eraseDups.length = 1 then 1
      else max (Text.ofNat size).length (if nodes.any isOther then 7 else 1)
    let line := fun (m : Measures) (name : Text) =>
      Text.join [' '] ((m.chosen letters).map fun n => Text.padLeft width (Text.ofNat n))
        ++ (if names.isEmpty then [] else ' ' :: name) ++ ['\n']
    let mut total := Measures.zero
    for name in listed do
      match ← Run.contentOf name with
      | .ok text =>
        let found := Measures.of text
        total := total.add found
        Run.print (line found name)
      | .error .isDirectory =>
        Run.fail (asShellWord name ++ ": Is a directory".toList)
        Run.print (line .zero name)
      | .error fault => Run.fail (asShellWord name ++ ": ".toList ++ fault.reason)
    if 1 < listed.length then Run.print (line total "total".toList)

end NameTables.Script.Utility
