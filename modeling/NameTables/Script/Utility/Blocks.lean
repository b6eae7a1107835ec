import NameTables.Script.Utility.Pairing
import NameTables.Script.Utility.Streams

/-!
# Copies block by block

The program that copies the input to the output in blocks, of which some are passed over, and that puts
files into pieces.

## Main definitions

* `BlockCopy` — what is copied, and how.
* `BlockCopy.read` — the words that tell that.
* `copyBlocks` — the program.
* `Piecewise`, `splitFile` — files in pieces.
-/

namespace NameTables.Script.Utility

open Shell (path)

/-! ### Blocks -/

/-- What is copied, and how. -/
structure BlockCopy where
  /-- The file that is read, if it is not the input. -/
  input : Option Text := none
  /-- The file that is written, if it is not the output. -/
  output : Option Text := none
  /-- How many octets are read at once. -/
  readSize : Nat := 512
  /-- How many octets are written at once. -/
  writeSize : Nat := 512
  /-- How many blocks are copied, if there is a limit. -/
  count : Option Nat := none
  /-- How many blocks of the input are passed over. -/
  skip : Nat := 0
  /-- How many blocks of the output are passed over. -/
  seek : Nat := 0
  /-- What is done to the text. -/
  conversions : List Text := []
  /-- What is told at the end. -/
  status : Text := "default".toList

namespace BlockCopy

/-- What can be done to a text, or to the output. -/
def knownConversions : List Text :=
  ["notrunc", "ucase", "lcase", "swab", "sync", "noerror", "fsync", "fdatasync", "excl",
    "nocreat"].map String.toList

/-- Take a word into account; or tell what is wrong with it, and whether that is said of its use. -/
def take (b : BlockCopy) (word : Text) : Except (Text × Bool) BlockCopy := do
  let key := word.takeWhile (· ≠ '=')
  let value := word.drop (key.length + 1)
  let number : Except (Text × Bool) Nat :=
    match sizeIn? value with
    | some n => .ok n
    | none => .error ("invalid number: ".toList ++ inShellQuotes value, false)
  let size : Except (Text × Bool) Nat := do
    let n ← number
    if n = 0 then throw ("invalid number: ".toList ++ inShellQuotes value, false) else return n
  if '=' ∉ word then throw ("unrecognized operand ".toList ++ inShellQuotes word, true)
  match String.ofList key with
  | "if" => return { b with input := some value }
  | "of" => return { b with output := some value }
  | "bs" => return { b with readSize := ← size, writeSize := ← size }
  | "ibs" => return { b with readSize := ← size }
  | "obs" => return { b with writeSize := ← size }
  | "count" => return { b with count := some (← number) }
  | "skip" | "iseek" => return { b with skip := ← number }
  | "seek" | "oseek" => return { b with seek := ← number }
  | "status" => return { b with status := value }
  | "iflag" | "oflag" => return b
  | "conv" =>
    let words := splitAt (· = ',') value
    match words.find? (· ∉ knownConversions) with
    | some word => throw ("invalid conversion: ".toList ++ inCurlyQuotes word, true)
    | none => return { b with conversions := b.conversions ++ words }
  | _ => throw ("unrecognized operand ".toList ++ inShellQuotes word, true)

/-- All that words tell. -/
def read (words : List Text) : Except (Text × Bool) BlockCopy := words.foldlM take {}

/-- Is a conversion asked for? -/
def has (b : BlockCopy) (name : String) : Bool := b.conversions.contains name.toList

/-- Octets with each two of them in the other order. -/
def swapped : Text → Text
  | a :: b :: rest => b :: a :: swapped rest
  | s => s

/-- What is written for what is read. -/
def converted (b : BlockCopy) (s : Text) : Text :=
  let s := if b.has "swab" then swapped s else s
  let s := if b.has "ucase" then s.map Char.toUpper else s
  if b.has "lcase" then s.map Char.toLower else s

/-- How many blocks there are, and whether there is a part of one more. -/
def blocks (size length : Nat) : Text :=
  Text.ofNat (length / size) ++ '+' :: Text.ofNat (if length % size = 0 then 0 else 1)

end BlockCopy

/-- Read octets up to a number of them, in pieces of which the last one comes first. -/
def readUpTo (id : Nat) : (fuel : Nat) → (most : Nat) → List Text → Run (Except IoFault Text)
  | 0, _, pieces => return .ok pieces.reverse.flatten
  | fuel + 1, most, pieces => do
    if most = 0 then return .ok pieces.reverse.flatten
    match ← Run.readFrom id (min most Run.readChunk) Run.readLimit with
    | .error fault => return .error fault
    | .ok [] => return .ok pieces.reverse.flatten
    | .ok text => readUpTo id fuel (most - text.length) (text :: pieces)

/-- Copy in blocks. -/
def copyBlocks : Utility := fun words => do
  match BlockCopy.read words with
  | .error (said, true) => modify (·.misuse said)
  | .error (said, false) => Run.fail said
  | .ok b =>
    let refuse := fun (name : Text) (fault : IoFault) =>
      Run.fail ("failed to open ".toList ++ inShellQuotes name ++ ": ".toList ++ fault.reason)
    let skipped := b.skip * b.readSize
    let wanted := b.count.map fun n => skipped + n * b.readSize
    let name := b.input.getD ['-']
    let found ← Run.withInput (if b.input.isSome && name = ['-'] then "./-".toList else name)
      fun id => match wanted with
        | some n => readUpTo id (n + 1) n []
        | none => Run.readAllFrom id
    match found with
    | .error fault => refuse name fault
    | .ok (.error fault) =>
      Run.fail ("error reading ".toList ++ inShellQuotes name ++ ": ".toList ++ fault.reason)
    | .ok (.ok text) =>
      let read := text.drop skipped
      let text := b.converted read
      let offset := b.seek * b.writeSize
      match b.output with
      | none => Run.print text
      | some target =>
        let s ← get
        let before := ((s.fileAt? target).map fun file => ofBytes file.content).getD []
        let kept := before.take offset
        let gap := List.replicate (offset - kept.length) '\x00'
        let behind := if b.has "notrunc" then before.drop (offset + text.length) else []
        match s.openPath .writing target with
        | .error fault => refuse target fault
        | .ok (id, s) =>
          let descriptor := s.freeDescriptor
          let s := s.setChannel descriptor id
          match s.put descriptor (kept ++ gap ++ text ++ behind) with
          | (none, s) => set (s.close descriptor)
          | (some fault, s) =>
            set (s.close descriptor)
            Run.fail ("error writing ".toList ++ inShellQuotes target ++ ": ".toList
              ++ fault.reason)
      if (← get).status = 0 && b.status ≠ "none".toList then
        let told := BlockCopy.blocks b.readSize read.length ++ " records in\n".toList
          ++ BlockCopy.blocks b.writeSize text.length ++ " records out\n".toList
        let count := Text.ofNat text.length
          ++ (if text.length = 1 then " byte copied" else " bytes copied").toList
        let last := if b.status = "noxfer".toList then []
          else count ++ ", 0.0001 s, 1.0 MB/s\n".toList
        modify (·.write 2 (told ++ last))

/-! ### Pieces -/

/-- How a file is put into pieces. -/
structure Piecewise where
  /-- How many lines or octets a piece has. -/
  size : Nat
  /-- Are octets counted? -/
  countsOctets : Bool
  /-- What the names of pieces begin with. -/
  lead : Text
  /-- How many letters or digits follow. -/
  width : Nat
  /-- Are these digits? -/
  numbers : Bool
  /-- What the names end with. -/
  tail : Text

namespace Piecewise

/-- The name of the piece with a number. -/
def name (p : Piecewise) (n : Nat) : Text :=
  let base := if p.numbers then 10 else 26
  let first := if p.numbers then '0' else 'a'
  p.lead ++ ((List.range p.width).map fun i =>
    Char.ofNat (first.toNat + n / Nat.pow base (p.width - 1 - i) % base)) ++ p.tail

/-- The pieces of a list, so many at most. -/
def chunks {α : Type} (size : Nat) : (fuel : Nat) → List α → List (List α)
  | 0, _ => []
  | fuel + 1, l => if l.isEmpty then [] else l.take size :: chunks size fuel (l.drop size)

/-- The pieces of a text. -/
def pieces (p : Piecewise) (text : Text) : List Text :=
  if p.countsOctets then chunks p.size (text.length + 1) text
  else
    let lines := linesOf text
    (chunks p.size (lines.length + 1) lines).map List.flatten

end Piecewise

/-- Put a file into pieces, each of which becomes a file. -/
def splitFile : Utility := fun args =>
  let args := args.map fun word =>
    match word with
    | '-' :: c :: rest => if c.isDigit then '-' :: 'l' :: c :: rest else word
    | word => word
  Usage.program ⟨"d\x02", "abl\x01", [("lines", 'l'), ("bytes", 'b'), ("suffix-length", 'a'),
    ("numeric-suffixes", 'd'), ("additional-suffix", '\x01'), ("verbose", '\x02')]⟩
    (fun options names => do
      let amount := (options.filter fun o => o.1 ∈ ['l', 'b']).getLast?
      let size := match amount with
        | some (_, word) => sizeIn? word
        | none => some 1000
      let width := match wordOf? 'a' options with
        | some word => digitsValue? 10 word
        | none => some 2
      let countsOctets := amount.any (·.1 == 'b')
      let what := if countsOctets then "bytes" else "lines"
      let word := (amount.map Prod.snd).getD []
      match size.filter (0 < ·), width, names with
      | none, _, _ =>
        Run.fail ("invalid number of ".toList ++ what.toList ++ ": ".toList ++ inCurlyQuotes word)
      | _, none, _ =>
        Run.fail ("invalid suffix length: ".toList
          ++ inCurlyQuotes ((wordOf? 'a' options).getD []))
      | _, _, _ :: _ :: extra :: _ =>
        modify (·.misuse ("extra operand ".toList ++ inCurlyQuotes extra))
      | some size, some width, names =>
        let name := names.headD ['-']
        match ← Run.contentOf name with
        | .error .isDirectory => Run.fail (faultText name .isDirectory)
        | .error fault =>
          Run.fail ("cannot open ".toList ++ inShellQuotes name ++ " for reading: ".toList
            ++ fault.reason)
        | .ok text =>
          let p : Piecewise :=
            ⟨size, countsOctets, (names[1]?).getD ['x'], width, isGiven 'd' options,
              (wordOf? '\x01' options).getD []⟩
          for (piece, n) in (p.pieces text).zipIdx do
            let target := p.name n
            if ← Run.goes then
              if isGiven '\x02' options then
                Run.print ("creating file ".toList ++ inShellQuotes target ++ ['\n'])
              let s ← get
              match s.openPath .writing target with
              | .error fault =>
                modify fun s => (s.fail (asShellWord target ++ ": ".toList ++ fault.reason)).quit 1
              | .ok (id, s) =>
                let descriptor := s.freeDescriptor
                let (_, s) := (s.setChannel descriptor id).put descriptor piece
                set (s.close descriptor))
    args

end NameTables.Script.Utility
