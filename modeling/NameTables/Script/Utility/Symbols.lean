import NameTables.Script.Pattern
import NameTables.Script.Program
import NameTables.Text.Printable

/-!
# Octets as characters

Scripts work on octets.  Where a program counts, compares or quotes characters, octets that are UTF-8
are taken together; any other octet stands for itself, as a character that no text has.

## Main definitions

* `symbolsOf` — the characters of a text of octets.
* `octetsOf` — the octets of characters.
* `fitsPattern` — names and the patterns of a shell.
* `asShellWord`, `inShellQuotes`, `inCurlyQuotes` — names as messages show them.
-/

namespace NameTables.Script

/-- The first of the characters that stand for stray octets. -/
def strayBase : Nat := 0x10ff00

/-- How many octets follow the first one of a character, and the bits that it gives. -/
def leadOctet? (n : Nat) : Option (Nat × Nat) :=
  if n < 0x80 then some (0, n)
  else if 0xc2 ≤ n && n < 0xe0 then some (1, n - 0xc0)
  else if 0xe0 ≤ n && n < 0xf0 then some (2, n - 0xe0)
  else if 0xf0 ≤ n && n < 0xf5 then some (3, n - 0xf0)
  else none

/-- The character that a text of octets begins with, unless it begins with a stray octet, and how
many octets it has. -/
def firstSymbol? (s : Text) : Option (Char × Nat) :=
  match s with
  | [] => none
  | c :: rest =>
    match leadOctet? c.toNat with
    | none => none
    | some (more, bits) =>
      let tail := rest.take more
      if tail.length = more && tail.all fun d => 0x80 ≤ d.toNat && d.toNat < 0xc0 then
        let n := tail.foldl (fun n d => n * 64 + (d.toNat - 0x80)) bits
        let least := match more with | 0 => 0 | 1 => 0x80 | 2 => 0x800 | _ => 0x10000
        if least ≤ n && n.isValidChar then some (Char.ofNat n, more + 1) else none
      else none

/-- The characters of a text of octets. -/
def symbolsOf (s : Text) : Text :=
  if s.all (·.toNat < 0x80) then s else go s.length s []
where
  /-- The characters behind those that were `found`, the last one of which comes first, when there
  are so many octets at most. -/
  go : (fuel : Nat) → Text → (found : Text) → Text
    | fuel + 1, c :: rest, found =>
      if c.toNat < 0x80 then go fuel rest (c :: found)
      else
        match firstSymbol? (c :: rest) with
        | some (symbol, n) => go fuel ((c :: rest).drop n) (symbol :: found)
        | none => go fuel rest (Char.ofNat (strayBase + c.toNat) :: found)
    | _, _, found => found.reverse

/-- Does the character stand for a stray octet? -/
def isStray (c : Char) : Bool := strayBase ≤ c.toNat && c.toNat < strayBase + 0x100

/-- The octets of a character. -/
def octetsOfSymbol (c : Char) : Text :=
  if c.toNat < 0x80 then [c]
  else if isStray c then [Char.ofNat (c.toNat - strayBase)]
  else octets [c]

/-- The octets of characters. -/
def octetsOf (s : Text) : Text := s.flatMap octetsOfSymbol

/-! ### Patterns -/

/-- Does a name fit a pattern of the shell? -/
def fitsPattern (pattern name : Text) : Bool :=
  matchesAll (atoms (marked (symbolsOf pattern))) (symbolsOf name)
where
  /-- The characters of a pattern, and which of them are quoted by a backslash. -/
  marked : Text → List (Char × Bool)
    | '\\' :: c :: rest => (c, true) :: marked rest
    | c :: rest => (c, false) :: marked rest
    | [] => []

/-! ### Names in messages -/

/-- Is the character shown as it is? -/
def isShown (c : Char) : Bool := !isStray c && isPrintable c

/-- A character that is not shown, as it is written after a backslash. -/
def escapeOf (c : Char) : Text :=
  match c with
  | '\x07' => ['a']
  | '\x08' => ['b']
  | '\t' => ['t']
  | '\n' => ['n']
  | '\x0b' => ['v']
  | '\x0c' => ['f']
  | '\r' => ['r']
  | c =>
    Text.join ['\\'] ((octetsOfSymbol c).map fun o =>
      let digits := Nat.toDigits 8 o.toNat
      List.replicate (3 - digits.length) '0' ++ digits)

/-- The inside of a text in quotes, where what is not shown is written with escapes; `escaping` tells
whether an escape came last. -/
def quotedInside : (escaping : Bool) → Text → Text
  | escaping, [] => if escaping then ['\''] else []
  | escaping, c :: rest =>
    if !isShown c then
      (if escaping then [] else "'$'".toList) ++ '\\' :: escapeOf c ++ quotedInside true rest
    else if c = '\'' then
      (if escaping then "\\'".toList ++ quotedInside true rest
      else "'\\'".toList ++ '\'' :: quotedInside false rest)
    else
      (if escaping then "''".toList else []) ++ octetsOfSymbol c ++ quotedInside false rest

/-- A name between quotes as a shell understands them. -/
def inShellQuotes (name : Text) : Text :=
  let s := symbolsOf name
  let isPlain := fun c : Char => isShown c && c ∉ "\"$`\\!&()*;<=>[^|?".toList
  if '\'' ∈ s && s.all isPlain then '\x22' :: name ++ ['\x22']
  else if s.all fun c => isShown c && c ≠ '\'' then '\'' :: name ++ ['\'']
  else
    let inside := quotedInside false s
    -- an escape at the end has closed the quotes already
    '\'' :: inside ++ if (s.getLast?.map isShown).getD true then ['\''] else []

/-- Has a shell to be kept from taking the name for anything else? -/
def needsQuotes (name : Text) : Bool :=
  let s := symbolsOf name
  s.isEmpty || s.any (fun c => !isShown c || c ∈ " !\"$&'()*;<=>[\\^`|?".toList)
    || s.head? = some '#' || s.head? = some '~' || s = ['{'] || s = ['}']

/-- A name as a shell understands it, between quotes if it has to be. -/
def asShellWord (name : Text) : Text := if needsQuotes name then inShellQuotes name else name

/-- A word between the quotes of printed text. -/
def inCurlyQuotes (word : Text) : Text :=
  octets ['\u2018'] ++ (symbolsOf word).flatMap (fun c =>
    if c = '\\' then ['\\', '\\'] else if isShown c then octetsOfSymbol c else '\\' :: escapeOf c)
    ++ octets ['\u2019']

/-- A word between upright quotes. -/
def inUprightQuotes (word : Text) : Text := '\'' :: word ++ ['\'']

end NameTables.Script
