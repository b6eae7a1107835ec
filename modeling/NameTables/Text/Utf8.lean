import NameTables.Text.Basic

/-!
# UTF-8

Reading runs a machine over the octets.  Between characters nothing is pending; inside one, the
machine knows how many octets are still owed, the range the next one has to lie in, and the bits
read so far.  An octet outside that range ends the unfinished character as malformed and is then
read as the beginning of the next one, so each maximal beginning of a character that is not
completed counts as one malformed place.

## Main definitions

* `Utf8.step` — what one octet yields and what is pending after it.
* `Utf8.scan` — the characters of a byte string, with `none` for each malformed place.
* `Bytes.decodeLossy` — malformed places read as U+FFFD.
* `Bytes.decode?` — only well-formed byte strings are read.
* `Text.encode` — the octets of a text.
-/

namespace NameTables

namespace Utf8

/-- An unfinished character. -/
structure Pending where
  /-- The bits read so far. -/
  bits : Nat
  /-- How many octets are owed after the next one. -/
  later : Nat
  /-- The least octet that may come next. -/
  low : Nat
  /-- The greatest octet that may come next. -/
  high : Nat
  deriving DecidableEq, Repr

/-- What an octet yields between characters: a finished character, a malformed place, or nothing
yet. -/
def first (b : Nat) : List (Option Char) × Option Pending :=
  if b ≤ 0x7F then ([some (Char.ofNat b)], none)
  else if 0xC2 ≤ b ∧ b ≤ 0xDF then ([], some ⟨b - 0xC0, 0, 0x80, 0xBF⟩)
  else if b = 0xE0 then ([], some ⟨0, 1, 0xA0, 0xBF⟩)
  else if b = 0xED then ([], some ⟨0xD, 1, 0x80, 0x9F⟩)
  else if 0xE1 ≤ b ∧ b ≤ 0xEF then ([], some ⟨b - 0xE0, 1, 0x80, 0xBF⟩)
  else if b = 0xF0 then ([], some ⟨0, 2, 0x90, 0xBF⟩)
  else if 0xF1 ≤ b ∧ b ≤ 0xF3 then ([], some ⟨b - 0xF0, 2, 0x80, 0xBF⟩)
  else if b = 0xF4 then ([], some ⟨4, 2, 0x80, 0x8F⟩)
  else ([none], none)

/-- What the next octet yields, and what is pending after it. -/
def step (pending : Option Pending) (b : Nat) : List (Option Char) × Option Pending :=
  match pending with
  | none => first b
  | some p =>
    if p.low ≤ b ∧ b ≤ p.high then
      let bits := p.bits * 64 + (b - 0x80)
      match p.later with
      | 0 => ([some (Char.ofNat bits)], none)
      | later + 1 => ([], some ⟨bits, later, 0x80, 0xBF⟩)
    else
      let (found, pending) := first b
      (none :: found, pending)

/-- Run the machine from a state; a character unfinished at the end is malformed. -/
def scanFrom (pending : Option Pending) : Bytes → List (Option Char)
  | [] => if pending.isSome then [none] else []
  | b :: bs =>
    let (found, pending) := step pending b.toNat
    found ++ scanFrom pending bs

@[simp] theorem scanFrom_nil (pending : Option Pending) :
    scanFrom pending [] = if pending.isSome then [none] else [] := rfl

@[simp] theorem scanFrom_cons (pending : Option Pending) (b : UInt8) (bs : Bytes) :
    scanFrom pending (b :: bs) =
      (step pending b.toNat).1 ++ scanFrom (step pending b.toNat).2 bs := rfl

/-- The characters of a byte string, with `none` for each malformed place. -/
def scan (bs : Bytes) : List (Option Char) := scanFrom none bs

/-- The character that stands for a malformed place. -/
def replacement : Char := '\uFFFD'

end Utf8

/-- Read a byte string, each malformed place as U+FFFD. -/
def Bytes.decodeLossy (bs : Bytes) : Text := (Utf8.scan bs).map (·.getD Utf8.replacement)

/-- Read a byte string that is well formed throughout. -/
def Bytes.decode? (bs : Bytes) : Option Text :=
  let found := Utf8.scan bs
  if found.all Option.isSome then some (found.filterMap id) else none

/-- The octets of a text. -/
def Text.encode (s : Text) : Bytes := s.flatMap String.utf8EncodeChar

@[simp] theorem Text.encode_nil : Text.encode [] = [] := rfl

end NameTables
