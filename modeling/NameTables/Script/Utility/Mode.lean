import NameTables.Script.Utility.Basic

/-!
# Permissions

How permissions are told and shown: in octal digits, or as changes in letters.

## Main definitions

* `ModeChange`, `modeChanges?` — changes of permissions, and how they are read.
* `ModeChange.apply` — permissions after a change.
* `modeLetters` — permissions in letters.
-/

namespace NameTables.Script.Utility

/-- A change of permissions. -/
structure ModeChange where
  /-- The bits that it is about; none if nobody is told, which leaves the mask in force. -/
  who : Nat
  /-- Whether the bits are added, taken away or set. -/
  sign : Char
  /-- The bits. -/
  bits : Nat
  /-- Is the bit for programs meant only where it makes sense? -/
  ifUseful : Bool
  /-- Whose bits are meant, if they are those of somebody else. -/
  copied : Option Char

/-- The bits of a letter for somebody. -/
def whoBits (c : Char) : Nat :=
  match c with
  | 'u' => 0o4700
  | 'g' => 0o2070
  | 'o' => 0o1007
  | _ => 0o7777

/-- The bits of a letter for a permission. -/
def permissionBits (c : Char) : Nat :=
  match c with
  | 'r' => 0o444
  | 'w' => 0o222
  | 'x' => 0o111
  | 's' => 0o6000
  | 't' => 0o1000
  | _ => 0

/-- The changes that follow those to whom they apply. -/
def changesFor? (who : Nat) : (fuel : Nat) → Text → Option (List ModeChange)
  | 0, _ => none
  | _, [] => some []
  | fuel + 1, sign :: rest =>
    if sign ∉ ['=', '+', '-'] then none
    else
      match rest with
      | c :: more =>
        if c ∈ ['u', 'g', 'o'] then
          (changesFor? who fuel more).map (⟨who, sign, 0, false, some c⟩ :: ·)
        else if isOctalDigit c then
          let digits := rest.takeWhile isOctalDigit
          (changesFor? who fuel (rest.drop digits.length)).map
            (⟨0o7777, sign, (digitsValue? 8 digits).getD 0, false, none⟩ :: ·)
        else
          let letters := rest.takeWhile (· ∈ "rwxXst".toList)
          (changesFor? who fuel (rest.drop letters.length)).map
            (⟨who, sign, letters.foldl (fun n c => n ||| permissionBits c) 0, 'X' ∈ letters, none⟩
              :: ·)
      | [] => some [⟨who, sign, 0, false, none⟩]
where
  /-- Is the character an octal digit? -/
  isOctalDigit (c : Char) : Bool := '0' ≤ c && c ≤ '7'

/-- The changes that a text tells. -/
def modeChanges? (mode : Text) : Option (List ModeChange) :=
  if (mode.head?.map Char.isDigit).getD false then
    match digitsValue? 8 mode with
    | some n => if n ≤ 0o7777 then some [⟨0o7777, '=', n, false, none⟩] else none
    | none => none
  else
    ((splitAt (· = ',') mode).mapM fun part =>
      let who := part.takeWhile (· ∈ ['u', 'g', 'o', 'a'])
      if part.length = who.length then none
      else changesFor? (who.foldl (fun n c => n ||| whoBits c) 0) (part.length + 1)
        (part.drop who.length)).map List.flatten

/-- The bits of permissions that are in a mask. -/
def keep (mode mask : Nat) : Nat := mode &&& mask

/-- The bits of permissions that are not in a mask. -/
def without (mode mask : Nat) : Nat := mode - (mode &&& mask)

/-- The bits that somebody has, for everybody. -/
def copiedBits (mode : Nat) (c : Char) : Nat :=
  let digit :=
    match c with
    | 'u' => mode / 64 % 8
    | 'g' => mode / 8 % 8
    | _ => mode % 8
  digit * 0o111

/-- Permissions after a change.  Those of a directory keep the bits that a text does not tell. -/
def ModeChange.apply (isDirectory : Bool) (mask : Nat) (mode : Nat) (change : ModeChange) : Nat :=
  let runs := change.ifUseful && (isDirectory || keep mode 0o111 ≠ 0)
  let bits :=
    match change.copied with
    | some c => copiedBits mode c
    | none => change.bits ||| if runs then 0o111 else 0
  let kept := if isDirectory then 0o6000 - keep bits 0o6000 else 0
  let bits := without
    (if change.who = 0 then without bits mask else keep bits change.who) kept
  match change.sign with
  | '+' => mode ||| bits
  | '-' => without mode bits
  | _ =>
    let affected := if change.who = 0 then 0o7777 else change.who
    without mode (without affected kept) ||| bits

/-- Permissions after changes. -/
def changedMode (isDirectory : Bool) (mask : Nat) (changes : List ModeChange) (mode : Nat) : Nat :=
  changes.foldl (ModeChange.apply isDirectory mask) mode

/-- Permissions in letters. -/
def modeLetters (mode : Nat) : Text :=
  let three := fun (digit : Nat) (special : Bool) (letter : Char) =>
    let runs := digit % 2 = 1
    [if digit / 4 % 2 = 1 then 'r' else '-', if digit / 2 % 2 = 1 then 'w' else '-',
      if special then (if runs then letter else letter.toUpper) else if runs then 'x' else '-']
  three (mode / 64 % 8) (mode / 0o4000 % 2 = 1) 's' ++ three (mode / 8 % 8)
    (mode / 0o2000 % 2 = 1) 's' ++ three (mode % 8) (mode / 0o1000 % 2 = 1) 't'

/-- The letter for what something is. -/
def kindLetter : Node → Char
  | .directory _ => 'd'
  | .file _ => '-'
  | .link _ => 'l'
  | .device _ => 'c'
  | .pipe _ => 'p'

/-- The permissions of what is at a place. -/
def modeOf (fs : Files) (node : Node) : Nat :=
  match node with
  | .directory mode => mode
  | .file number => ((fs.state? number).map FileState.mode).getD Files.usualMode
  | .link _ => 0o777
  | .device _ => 0o666
  | .pipe _ => Files.usualMode

/-- The files with other permissions for what is at a place. -/
def withMode (fs : Files) (place : Place) (mode : Nat) : Files :=
  match fs.node? place with
  | some (.directory _) => fs.put place (.directory mode)
  | some (.file number) =>
    match fs.state? number with
    | some state => fs.setState number { state with mode }
    | none => fs
  | _ => fs

/-- Permissions in octal digits, so many at least. -/
def modeDigits (least mode : Nat) : Text :=
  let digits := Nat.toDigits 8 mode
  List.replicate (least - digits.length) '0' ++ digits

end NameTables.Script.Utility
