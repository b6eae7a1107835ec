import NameTables.Script.Fractional
import NameTables.Script.Utility.Symbols

/-!
# What scripts print

The two ways in which a script prints: its arguments with a blank between them, and a format that
is filled with its arguments again and again until none is left.

## Main definitions

* `echoText` — arguments with blanks between them.
* `Layout` — how a conversion is laid out.
* `formatText` — a format filled with arguments.
-/

namespace NameTables.Script

/-- The character with the code that octal digits tell, kept to an octet. -/
def octalChar (digits : Text) : Char :=
  Char.ofNat (digits.foldl (fun n d => n * 8 + (d.toNat - '0'.toNat)) 0 % 256)

/-- Is the character an octal digit? -/
def isOctal (c : Char) : Bool := '0' ≤ c && c ≤ '7'

/-- The character that a letter after a backslash stands for. -/
def escaped? (c : Char) : Option Char :=
  match c with
  | 'a' => some '\x07'
  | 'b' => some '\x08'
  | 'e' => some '\x1b'
  | 'f' => some '\x0c'
  | 'n' => some '\n'
  | 'r' => some '\r'
  | 't' => some '\t'
  | 'v' => some '\x0b'
  | '\\' => some '\\'
  | _ => none

/-- How many octal digits a code in an argument has at most: three, after a zero four. -/
def octalWidth : Text → Nat
  | '0' :: _ => 4
  | _ => 3

/-- The text in which escapes stand for their characters, and whether `\c` has ended it. -/
def unescape : (fuel : Nat) → Text → Text × Bool
  | 0, s => (s, false)
  | _ + 1, [] => ([], false)
  | _ + 1, '\\' :: 'c' :: _ => ([], true)
  | fuel + 1, '\\' :: c :: s =>
    let digits := ((c :: s).take (octalWidth (c :: s))).takeWhile isOctal
    if digits.isEmpty then
      let (more, ended) := unescape fuel s
      match escaped? c with
      | some d => (d :: more, ended)
      | none => ('\\' :: c :: more, ended)
    else
      let (more, ended) := unescape fuel ((c :: s).drop digits.length)
      (octalChar digits :: more, ended)
  | fuel + 1, c :: s =>
    let (more, ended) := unescape fuel s
    (c :: more, ended)

/-- What the escape behind a backslash stands for where there are more escapes, and how long it is;
nothing if it ends all printing. -/
def escapeLead (s : Text) : Option (Text × Nat) :=
  let coded := fun (digits : Text) => octets [Char.ofNat ((digitsValue? 16 digits).getD 0)]
  let hex := fun (width : Nat) => ((s.drop 1).take width).takeWhile fun c => (digitsValue? 16 [c]).isSome
  match s with
  | [] => some (['\\'], 0)
  | 'c' :: _ => none
  | '\x22' :: _ => some (['\x22'], 1)
  | 'x' :: _ =>
    let digits := hex 2
    if digits.isEmpty then some ("\\x".toList, 1)
    else some ([Char.ofNat ((digitsValue? 16 digits).getD 0)], digits.length + 1)
  | 'u' :: _ => some (coded (hex 4), (hex 4).length + 1)
  | 'U' :: _ => some (coded (hex 8), (hex 8).length + 1)
  | c :: _ =>
    let digits := (s.take 3).takeWhile isOctal
    if digits.isEmpty then some (((escaped? c).map fun d => [d]).getD ['\\', c], 1)
    else some ([octalChar digits], digits.length)

/-- The text in which escapes stand for their characters where there are more of them, and whether
one has ended it.  A zero may stand in front of an octal code. -/
def unescapeMore : (fuel : Nat) → Text → Text × Bool
  | 0, s => (s, false)
  | _ + 1, [] => ([], false)
  | fuel + 1, '\\' :: s =>
    let lead := if s.head? = some '0' && (s.drop 1).head?.any isOctal then 1 else 0
    match escapeLead (s.drop lead) with
    | none => ([], true)
    | some (found, n) =>
      let (more, ended) := unescapeMore fuel (s.drop (lead + n))
      (found ++ more, ended)
  | fuel + 1, c :: s =>
    let (more, ended) := unescapeMore fuel s
    (c :: more, ended)

/-- What the arguments print. -/
def echoText (args : List Text) : Text :=
  let (line, args) :=
    match args with
    | ['-', 'n'] :: rest => (false, rest)
    | args => (true, args)
  let s := Text.join [' '] args
  let (s, ended) := unescape (s.length + 1) s
  if line && !ended then s ++ ['\n'] else s

/-! ### Conversions -/

/-- How a conversion is laid out. -/
structure Layout where
  /-- The flags in front. -/
  flags : Text
  /-- Its least width. -/
  width : Nat
  /-- The number of characters or places, or the least number of digits. -/
  precision : Option Nat

namespace Layout

/-- Is the flag set? -/
def has (l : Layout) (flag : Char) : Bool := flag ∈ l.flags

/-- A text laid out. -/
def text (l : Layout) (s : Text) : Text :=
  if l.has '-' then Text.padRight l.width s else Text.padLeft l.width s

/-- A number laid out: what stands in front of its digits, and these, which are filled up with
zeros if `fill` is set and no flag says otherwise. -/
def number (l : Layout) (lead digits : Text) (fill : Bool) : Text :=
  if l.has '0' && !l.has '-' && fill then
    lead ++ List.replicate (l.width - lead.length - digits.length) '0' ++ digits
  else l.text (lead ++ digits)

/-- The sign in front of a number. -/
def sign (l : Layout) (negative : Bool) : Text :=
  if negative then ['-'] else if l.has '+' then ['+'] else if l.has ' ' then [' '] else []

/-- The digits of a whole number, at least as many as asked for; zero has none if none is. -/
def digits (l : Layout) (base n : Nat) : Text :=
  if n = 0 && l.precision = some 0 then []
  else
    let found := Nat.toDigits base n
    List.replicate (l.precision.getD 1 - found.length) '0' ++ found

/-- A number with a sign. -/
def signed (l : Layout) (n : Int) : Text :=
  l.number (l.sign (n < 0)) (l.digits 10 n.natAbs) l.precision.isNone

/-- A number without sign, to a base. -/
def unsigned (l : Layout) (base n : Nat) : Text :=
  let digits := l.digits base n
  let marked := l.has '#'
  let lead := if marked && base = 16 && n ≠ 0 then ['0', 'x'] else []
  let digits := if marked && base = 8 && digits.head? ≠ some '0' then '0' :: digits else digits
  l.number lead digits l.precision.isNone

/-- A number with a point. -/
def fractional (l : Layout) (p : Precision) (conversion : Char) (x : Fractional) : Text :=
  let precision := l.precision.getD 6
  let sign := l.sign x.negative
  if !x.isFinite then l.text (sign ++ x.wordOf)
  else
    match conversion with
    | 'a' =>
      let digits := x.hexadecimal p l.precision (l.has '#')
      l.number (sign ++ digits.take 2) (digits.drop 2) true
    | 'f' =>
      l.number sign (x.fixed precision ++ if precision = 0 && l.has '#' then ['.'] else []) true
    | 'e' => l.number sign (x.scientific precision) true
    | _ => l.number sign (x.general precision (l.has '#')) true

end Layout

/-- What is wrong with an argument or with a format. -/
inductive FormatFault
  /-- The argument is no number. -/
  | noNumber (arg : Text)
  /-- More follows the number in the argument. -/
  | partNumber (arg : Text)
  /-- The number is beyond what can be kept. -/
  | beyond (arg : Text)
  /-- The format ends within a conversion. -/
  | unfinished
  /-- There is no such conversion. -/
  | noConversion (directive : Text)

/-- The wording of a fault. -/
def FormatFault.message : FormatFault → Text
  | .noNumber arg => arg ++ ": expected numeric value".toList
  | .partNumber arg => arg ++ ": not completely converted".toList
  | .beyond arg => arg ++ ": Numerical result out of range".toList
  | .unfinished => "missing format character".toList
  | .noConversion directive =>
    -- only the letter at the end is told
    '%' :: directive.drop (directive.length - 1) ++ ": invalid directive".toList

/-- What is wrong with an argument that is not or not only a number. -/
def numberFault (arg rest : Text) (beyond : Bool) : List FormatFault :=
  if rest = arg && !arg.isEmpty then [.noNumber arg]
  else if !rest.isEmpty then [.partNumber arg]
  else if beyond then [.beyond arg]
  else []

/-- The manners of printing: the shell's own, or those of the program for it. -/
structure Manner where
  /-- How numbers with a point are kept. -/
  precision : Precision
  /-- Are there more escapes and conversions? -/
  more : Bool

/-- The shell's own manner. -/
def Manner.plain : Manner := ⟨.double, false⟩

/-- The manner of the program. -/
def Manner.rich : Manner := ⟨.extended, true⟩

/-- The code of the character after a quote at the beginning of an argument. -/
def quotedCode? : Text → Option Int
  | '\'' :: s => some ((s.head?.map fun c => (c.toNat : Int)).getD 0)
  | '\x22' :: s => some ((s.head?.map fun c => (c.toNat : Int)).getD 0)
  | _ => none

/-- The number that an argument tells, a numeral or the code of a character after a quote, kept
between bounds, and what is wrong with it. -/
def argumentValue (low high : Int) (arg : Text) : Int × List FormatFault :=
  match quotedCode? arg with
  | some n => (n, [])
  | none =>
    match numeralLead? false arg with
    | some (n, rest) => (max low (min n high), numberFault arg rest (n < low || high < n))
    | none => (0, numberFault arg arg false)

/-- The number with a point that an argument tells, and what is wrong with it. -/
def fractionalValue (p : Precision) (arg : Text) : Fractional × List FormatFault :=
  match quotedCode? arg with
  | some n => (Fractional.ofInt n, [])
  | none =>
    match Fractional.lead? arg with
    | some (x, rest) =>
      let (x, beyond) := x.rounded p
      (x, numberFault arg rest beyond)
    | none => (Fractional.ofInt 0, numberFault arg arg false)

/-- What a conversion prints. -/
structure Converted where
  /-- The text. -/
  text : Text
  /-- What is wrong with the argument. -/
  faults : List FormatFault
  /-- Has the argument ended all printing? -/
  ended : Bool

/-- What an argument prints; there is no conversion with most letters. -/
def convert? (m : Manner) (l : Layout) (conversion : Char) (arg : Text) : Option Converted :=
  let plain := fun s => some ⟨s, [], false⟩
  let whole := argumentValue extremes.1 extremes.2 arg
  let natural := argumentValue (-18446744073709551615) 18446744073709551615 arg
  let unsigned := fun base => some
    ⟨l.unsigned base (natural.1 % 18446744073709551616).toNat, natural.2, false⟩
  let fractional := fun letter upper =>
    let (x, faults) := fractionalValue m.precision arg
    let s := l.fractional m.precision letter x
    some ⟨if upper then s.map Char.toUpper else s, faults, false⟩
  let cut := fun s : Text => match l.precision with | some n => s.take n | none => s
  match conversion with
  | 's' => plain (l.text (cut arg))
  | 'b' =>
    let (s, ended) := if m.more then unescapeMore (arg.length + 1) arg else unescape (arg.length + 1) arg
    some ⟨l.text (cut s), [], ended⟩
  | 'q' => if m.more then plain (l.text (asShellWord arg)) else none
  | 'c' => plain (l.text [arg.head?.getD '\x00'])
  | 'd' => some ⟨l.signed whole.1, whole.2, false⟩
  | 'i' => some ⟨l.signed whole.1, whole.2, false⟩
  | 'u' => unsigned 10
  | 'o' => unsigned 8
  | 'x' => unsigned 16
  | 'X' => (unsigned 16).map fun c => { c with text := c.text.map Char.toUpper }
  | 'f' => fractional 'f' false
  | 'F' => fractional 'f' true
  | 'e' => fractional 'e' false
  | 'E' => fractional 'e' true
  | 'g' => fractional 'g' false
  | 'G' => fractional 'g' true
  | 'a' => fractional 'a' false
  | 'A' => fractional 'a' true
  | _ => none

/-! ### Formats -/

/-- A width or precision: digits, or a star for the next argument. -/
def measureOf (s : Text) (args : List Text) : Int × Text × List Text :=
  match s with
  | '*' :: s => ((argumentValue (-2147483648) 2147483647 (args.head?.getD [])).1, s, args.tail)
  | s =>
    let digits := s.takeWhile Char.isDigit
    ((digitsValue? 10 digits).getD 0, s.dropWhile Char.isDigit, args)

/-- The layout that a format begins with, after its per cent sign, what follows, and the arguments
that are left. -/
def layoutOf (s : Text) (args : List Text) : Layout × Text × List Text :=
  let isFlag := fun c : Char => c = '-' || c = '+' || c = ' ' || c = '#' || c = '0'
  let flags := s.takeWhile isFlag
  let (width, s, args) := measureOf (s.dropWhile isFlag) args
  let flags := if width < 0 then '-' :: flags else flags
  match s with
  | '.' :: s =>
    let (precision, s, args) := measureOf s args
    (⟨flags, width.natAbs, if precision < 0 then none else some precision.toNat⟩, s, args)
  | s => (⟨flags, width.natAbs, none⟩, s, args)

/-- How printing goes on. -/
inductive Going
  /-- With what follows. -/
  | on
  /-- It has been ended. -/
  | ended
  /-- It has broken off. -/
  | broken
  deriving DecidableEq, Repr

/-- What is printed by a format. -/
structure Printed where
  /-- The text. -/
  text : Text
  /-- The arguments that are left. -/
  left : List Text
  /-- Has an argument been asked for? -/
  asked : Bool
  /-- What is wrong with the format or the arguments. -/
  faults : List FormatFault
  /-- How printing goes on. -/
  going : Going

/-- The printed text with more in front. -/
def Printed.after (p : Printed) (s : Text) : Printed := { p with text := s ++ p.text }

/-- The letters that tell how large a number is kept, which has no effect. -/
def sizeLetters : Text := "hlLjzt".toList

/-- Fill a format once. -/
def fillOnce (m : Manner) : (fuel : Nat) → Text → List Text → Printed
  | 0, _, args => ⟨[], args, false, [], .on⟩
  | _ + 1, [], args => ⟨[], args, false, [], .on⟩
  | fuel + 1, '\\' :: c :: s, args =>
    if m.more then
      match escapeLead (c :: s) with
      | none => ⟨[], args, false, [], .ended⟩
      | some (found, n) => (fillOnce m fuel ((c :: s).drop n) args).after found
    else
      let digits := ((c :: s).take 3).takeWhile isOctal
      if digits.isEmpty then
        match escaped? c with
        | some d => (fillOnce m fuel s args).after [d]
        | none => (fillOnce m fuel s args).after ['\\', c]
      else (fillOnce m fuel ((c :: s).drop digits.length) args).after [octalChar digits]
  | fuel + 1, '%' :: '%' :: s, args => (fillOnce m fuel s args).after ['%']
  | fuel + 1, '%' :: started, args =>
    let (l, s, args) := layoutOf started args
    let s := if m.more then s.dropWhile (· ∈ sizeLetters) else s
    let directive := started.take (started.length - s.length + 1)
    match s with
    | [] =>
      ⟨[], args, false, [if m.more then .noConversion directive else .unfinished], .broken⟩
    | conversion :: s =>
      match convert? m l conversion (args.head?.getD []) with
      | none => ⟨[], args, false, [.noConversion directive], .broken⟩
      | some c =>
        if c.ended then ⟨c.text, [], true, c.faults, .ended⟩
        else
          let p := fillOnce m fuel s args.tail
          { p with text := c.text ++ p.text, asked := true, faults := c.faults ++ p.faults }
  | fuel + 1, c :: s, args => (fillOnce m fuel s args).after [c]

/-- Fill a format until no argument is left. -/
def fill (m : Manner) : (fuel : Nat) → Text → List Text → Printed
  | 0, _, args => ⟨[], args, false, [], .on⟩
  | fuel + 1, format, args =>
    let p := fillOnce m (format.length + 1) format args
    if p.asked && !p.left.isEmpty && p.going = .on then
      let more := fill m fuel format p.left
      { more with text := p.text ++ more.text, faults := p.faults ++ more.faults }
    else p

/-- What a format and its arguments print. -/
def formatText (m : Manner) (format : Text) (args : List Text) : Printed :=
  fill m (args.length + 1) format args

end NameTables.Script
