import NameTables.Script.Format
import NameTables.Script.Utility.Streams

/-!
# Octets as numbers

A program that shows what files hold, octet by octet or several of them as one number, in rows of one
length with the number of octets before them.  Rows that are the same as the one before are shown by
a star.

## Main definitions

* `DumpForm`, `DumpForm.field` — a way to show octets, and what it shows of some.
* `Dump.row` — a row in all ways.
* `dumpFiles` — the program.
-/

namespace NameTables.Script

/-- Numbers of 32 bits. -/
def Precision.single : Precision := ⟨24, -126, 127, 1⟩

/-- The number that binary digits stand for, of which so many tell the power. -/
def Fractional.ofBits (p : Precision) (powerBits bits : Nat) : Fractional :=
  let places := p.digits - 1
  let fraction := bits % Nat.pow 2 places
  let power := bits / Nat.pow 2 places % Nat.pow 2 powerBits
  let negative := bits / Nat.pow 2 (places + powerBits) % 2 = 1
  if power = Nat.pow 2 powerBits - 1 then ⟨negative, if fraction = 0 then 1 else 0, 0⟩
  else
    let n := if power = 0 then fraction else fraction + Nat.pow 2 places
    let shift : Int := p.least - places + (max power 1 - 1 : Nat)
    if 0 ≤ shift then ⟨negative, n * Nat.pow 2 shift.toNat, 1⟩
    else ⟨negative, n, Nat.pow 2 (-shift).toNat⟩

/-- The fewest digits, from some number on, that tell a number from all others that are kept. -/
def Fractional.shortest (p : Precision) (x : Fractional) : (fuel digits : Nat) → Text
  | 0, digits => x.general digits false
  | fuel + 1, digits =>
    let text := x.general digits false
    match Fractional.lead? text with
    | some (y, []) =>
      if (y.rounded p).1.compare { x with negative := false } == .eq then text
      else x.shortest p fuel (digits + 1)
    | _ => text

namespace Utility

/-- A way to show octets. -/
structure DumpForm where
  /-- The letter of the way. -/
  letter : Char
  /-- How many octets are shown as one. -/
  size : Nat
  /-- Are the octets of a row shown as text behind it? -/
  showsText : Bool

namespace DumpForm

/-- How many characters a number takes. -/
def width (f : DumpForm) : Nat :=
  match f.letter with
  | 'o' => (8 * f.size + 2) / 3
  | 'x' => 2 * f.size
  | 'd' => if f.size = 1 then 4 else if f.size = 2 then 6 else if f.size = 4 then 11 else 20
  | 'u' => if f.size = 1 then 3 else if f.size = 2 then 5 else if f.size = 4 then 10 else 20
  | 'f' => if f.size = 4 then 15 else 24
  | _ => 3

/-- The names of the first octets. -/
def octetNames : List String :=
  ["nul", "soh", "stx", "etx", "eot", "enq", "ack", "bel", "bs", "ht", "nl", "vt", "ff", "cr", "so",
    "si", "dle", "dc1", "dc2", "dc3", "dc4", "nak", "syn", "etb", "can", "em", "sub", "esc", "fs",
    "gs", "rs", "us", "sp"]

/-- The digits of a number, as many as are asked for. -/
def digits (base width n : Nat) : Text :=
  let found := Nat.toDigits base n
  List.replicate (width - found.length) '0' ++ found

/-- An octet as a character. -/
def character (c : Char) : Text :=
  if c = '\x00' then ['\\', '0']
  else
    match "\x07\x08\x0c\n\r\t\x0b".toList.findIdx? (· = c) with
    | some i => ['\\', ("abfnrtv".toList[i]?).getD 'a']
    | none => if ' ' ≤ c && c ≤ '~' then [c] else digits 8 3 c.toNat

/-- The name of an octet without its first bit. -/
def named (c : Char) : Text :=
  let n := c.toNat % 128
  if n = 127 then "del".toList
  else
    match octetNames[n]? with
    | some name => name.toList
    | none => [Char.ofNat n]

/-- Octets, the least one first, as they are shown. -/
def field (f : DumpForm) (octets : Text) : Text :=
  let n : Nat := octets.foldr (fun c n => c.toNat + 256 * n) 0
  match f.letter with
  | 'a' => octets.flatMap named
  | 'c' => octets.flatMap character
  | 'd' => Text.ofInt (if Nat.pow 2 (8 * f.size - 1) ≤ n then (n : Int) - Nat.pow 2 (8 * f.size) else n)
  | 'u' => Text.ofNat n
  | 'o' => digits 8 f.width n
  | 'f' =>
    let (p, powerBits, usual) :=
      if f.size = 4 then (Precision.single, 8, 6) else (Precision.double, 11, 15)
    let x := Fractional.ofBits p powerBits n
    let text :=
      if !x.isFinite then x.wordOf
      else x.shortest p 20 (if x.dividend = 0 || x.firstPower < p.least then 1 else usual)
    (if x.negative then ['-'] else []) ++ text
  | _ => digits 16 f.width n

/-- The ways that a word tells; or what is wrong with it. -/
def read (word : Text) : (fuel : Nat) → Text → Except Text (List DumpForm)
  | 0, _ => .ok []
  | _, [] => .ok []
  | fuel + 1, letter :: s =>
    let goOn := fun (size : Nat) (s : Text) => do
      let (shows, s) := match s with | 'z' :: s => (true, s) | s => (false, s)
      return ⟨letter, size, shows⟩ :: (← read word fuel s)
    let sized := fun (letters : List (Char × Nat)) (usual : Nat) (kind : String) =>
      match s with
      | c :: rest =>
        match letters.lookup c, digitsLead? 10 s with
        | some size, _ => goOn size rest
        | none, some (size, rest) =>
          if letters.any (·.2 = size) then goOn size rest
          else
            .error ("invalid type string ".toList ++ inCurlyQuotes word
              ++ ";\nthis system doesn't provide a ".toList ++ Text.ofNat size ++ "-byte ".toList
              ++ kind.toList ++ " type".toList)
        | none, none => goOn usual s
      | [] => goOn usual s
    if letter ∈ ['a', 'c'] then goOn 1 s
    else if letter ∈ ['d', 'o', 'u', 'x'] then
      sized [('C', 1), ('S', 2), ('I', 4), ('L', 8)] 4 "integral"
    else if letter = 'f' then sized [('F', 4), ('D', 8)] 8 "floating point"
    else
      .error ("invalid character ".toList ++ inUprightQuotes [letter] ++ " in type string ".toList
        ++ inCurlyQuotes word)

/-- The word that tells the way of a letter by itself. -/
def wordOf? (letter : Char) : Option String :=
  [('a', "a"), ('b', "o1"), ('c', "c"), ('D', "u4"), ('d', "u2"), ('e', "fD"), ('F', "fD"),
    ('f', "fF"), ('H', "x4"), ('X', "x4"), ('h', "x2"), ('x', "x2"), ('i', "dI"), ('I', "dL"),
    ('L', "dL"), ('l', "dL"), ('O', "o4"), ('o', "o2"), ('B', "o2"), ('s', "d2")].lookup letter

end DumpForm

/-! ### Rows -/

/-- How octets are shown. -/
structure Dump where
  /-- The ways, one below the other. -/
  forms : List DumpForm
  /-- The base of the numbers in front of rows, if there are any. -/
  base : Option Nat
  /-- How many octets a row has. -/
  length : Nat
  /-- Are rows shown that are the same as the one before? -/
  every : Bool

/-- How far the octets have been shown. -/
structure Dumped where
  /-- How many octets stand before the next row. -/
  offset : Nat
  /-- The octets that are not shown yet. -/
  waiting : Text
  /-- The last row. -/
  last : Option Text
  /-- Is it shown that the last row comes again? -/
  starred : Bool
  /-- How many octets are still to be passed over. -/
  skipped : Nat
  /-- How many more are read, if not all are. -/
  left : Option Nat

namespace Dump

/-- How wide the numbers in front of rows are. -/
def labelWidth (d : Dump) : Nat :=
  match d.base with
  | none => 0
  | some 16 => 6
  | some _ => 7

/-- A number in front of a row. -/
def label (d : Dump) (n : Nat) : Text :=
  match d.base with
  | none => []
  | some base => DumpForm.digits base d.labelWidth n

/-- How many characters the fields of a row take, with a blank before each. -/
def rowWidth (d : Dump) : Nat :=
  (d.forms.map fun f => (f.width + 1) * (d.length / f.size)).foldl max 0

/-- A row in one way, without what is in front of it. -/
def rowIn (d : Dump) (f : DumpForm) (octets : Text) : Text :=
  let count := d.length / f.size
  let blank := (d.length - octets.length) / f.size
  let room := d.rowWidth - count * f.width
  let fields := (List.range (count - blank)).map fun i =>
    let group := (octets.drop (i * f.size)).take f.size
    let before := room * (count - i) / count
    let behind := room * (count - i - 1) / count
    Text.padLeft (before - behind + f.width) (f.field group)
  let ending :=
    if f.showsText then
      List.replicate (blank * f.width + room * blank / count) ' ' ++ "  >".toList
        ++ octets.map (fun c => if ' ' ≤ c && c ≤ '~' then c else '.') ++ ['<']
    else []
  fields.flatten ++ ending

/-- A row in all ways. -/
def row (d : Dump) (offset : Nat) (octets : Text) : Text :=
  d.forms.zipIdx.flatMap fun (f, i) =>
    (if i = 0 then d.label offset else List.replicate d.labelWidth ' ') ++ d.rowIn f octets ++ ['\n']

/-- Show all full rows of what waits. -/
def rows (d : Dump) : (fuel : Nat) → Dumped → (pieces : List Text) → Dumped × List Text
  | 0, st, pieces => (st, pieces)
  | fuel + 1, st, pieces =>
    let octets := st.waiting.take d.length
    if octets.length < d.length then (st, pieces)
    else
      let after := { st with
        offset := st.offset + d.length
        waiting := st.waiting.drop d.length }
      if !d.every && st.last = some octets then
        d.rows fuel { after with starred := true }
          (if st.starred then pieces else "*\n".toList :: pieces)
      else
        d.rows fuel { after with last := some octets, starred := false }
          (d.row st.offset octets :: pieces)

/-- Show more octets, as far as there are full rows. -/
def add (d : Dump) (st : Dumped) (text : Text) : Dumped × Text :=
  let kept := text.drop st.skipped
  let st := { st with
    skipped := st.skipped - text.length
    offset := st.offset + (text.length - kept.length)
    waiting := st.waiting ++ kept }
  let (st, pieces) := d.rows (st.waiting.length + 1) st []
  (st, pieces.reverse.flatten)

/-- Show what is left, and the number of all octets. -/
def ending (d : Dump) (st : Dumped) : Text :=
  (if st.waiting.isEmpty then [] else d.row st.offset st.waiting)
    ++ if d.base.isSome then d.label (st.offset + st.waiting.length) ++ ['\n'] else []

/-- Show what is opened, as far as it is asked for. -/
def showFrom (d : Dump) (id : Nat) : (fuel : Nat) → Dumped → Run (Except (IoFault × Dumped) Dumped)
  | 0, st => return .ok st
  | fuel + 1, st => do
    let most := match st.left with
      | some n => min (n + st.skipped) Run.readChunk
      | none => Run.readChunk
    if most = 0 || !(← Run.goes) then return .ok st
    match ← Run.readFrom id most Run.readLimit with
    | .error fault => return .error (fault, st)
    | .ok [] => return .ok st
    | .ok text =>
      let counted := text.length - st.skipped
      let (st, shown) := d.add st text
      Run.print shown
      d.showFrom id fuel { st with left := st.left.map (· - counted) }

end Dump

/-! ### The program -/

/-- The number of octets that a word tells, to the base that its beginning tells. -/
def octetCount? (word : Text) : Option Nat :=
  match magnitudeLead? word with
  | some (n, unit) => (unitOf? unit).map (n * ·)
  | none => none

/-- The arguments with the length of rows as an option with a word. -/
def withRowLength (args : List Text) : List Text :=
  args.map fun word =>
    match word with
    | ['-', 'w'] => "--width".toList
    | '-' :: 'w' :: n => "--width=".toList ++ n
    | _ => word

/-- The usage of the program that shows octets. -/
def dumpUsage : Usage :=
  ⟨"abcDdeFfHXhxiILlOoBsv", "AjNt", [("address-radix", 'A'), ("skip-bytes", 'j'),
    ("read-bytes", 'N'), ("format", 't'), ("output-duplicates", 'v'), ("width", 'W')]⟩

/-- How octets are to be shown; or what is wrong with that. -/
def dumpOf (options : List (Char × Text)) : Except Text (Dump × Option Text) := do
  let base ←
    match wordOf? 'A' options with
    | none => Except.ok (some 8)
    | some word =>
      match word.head? with
      | some 'd' => .ok (some 10)
      | some 'o' => .ok (some 8)
      | some 'x' => .ok (some 16)
      | some 'n' => .ok none
      | c =>
        .error ("invalid output address radix '".toList ++ c.toList
          ++ "'; it must be one character from [doxn]".toList)
  let words := options.filterMap fun (letter, word) =>
    if letter = 't' then some word else (DumpForm.wordOf? letter).map String.toList
  let forms ← words.mapM fun word => DumpForm.read word (word.length + 1) word
  let forms := if forms.flatten.isEmpty then [⟨'o', 2, false⟩] else forms.flatten
  let size := forms.foldl (fun n f => Nat.lcm n f.size) 1
  let usual := size * max 1 (16 / size)
  match wordOf? 'W' options with
  | none => return (⟨forms, base, usual, isGiven 'v' options⟩, none)
  | some word =>
    let told := if word.isEmpty then some 32 else octetCount? word
    match told with
    | none => .error ("invalid -w argument ".toList ++ inUprightQuotes word)
    | some n =>
      if n ≠ 0 && n % size = 0 then return (⟨forms, base, n, isGiven 'v' options⟩, none)
      else
        return (⟨forms, base, size, isGiven 'v' options⟩,
          some ("warning: invalid width ".toList ++ Text.ofNat n ++ "; using ".toList
            ++ Text.ofNat size ++ " instead".toList))

/-- Show the octets of files, one after another. -/
def dumpFiles : Utility := fun args =>
  dumpUsage.program (fun options names => do
    let count := fun letter : Char =>
      match wordOf? letter options with
      | none => Except.ok none
      | some word =>
        match octetCount? word with
        | some n => .ok (some n)
        | none =>
          .error ("invalid -".toList ++ letter :: " argument ".toList ++ inUprightQuotes word)
    match dumpOf options, count 'j', count 'N' with
    | .error said, _, _ => Run.fail said
    | _, .error said, _ => Run.fail said
    | _, _, .error said => Run.fail said
    | .ok (d, warning), .ok skipped, .ok left =>
      warning.forM Run.say
      let mut st : Dumped := ⟨0, [], none, false, skipped.getD 0, left⟩
      let mut found := false
      for name in if names.isEmpty then [['-']] else names do
        if !(← Run.goes) then break
        let label := if name = ['-'] then "standard input".toList else name
        let refuse := fun fault : IoFault =>
          Run.fail (asShellWord label ++ ": ".toList ++ fault.reason)
        let start := st
        match ← Run.withInput name fun id => d.showFrom id Run.readLimit start with
        | .ok (.ok after) =>
          st := after
          found := true
        | .ok (.error (fault, after)) =>
          refuse fault
          st := after
          found := true
        | .error fault =>
          refuse fault
          found := found || fault matches .isDirectory | .badDescriptor
      if !found then return
      if 0 < st.skipped then Run.fail "cannot skip past end of combined input".toList
      else Run.print (d.ending st)
      if (names.isEmpty || ['-'] ∈ names) && ((← get).channel? 0).isNone then
        Run.fail "standard input: Bad file descriptor".toList) (withRowLength args)

end Utility
end NameTables.Script
