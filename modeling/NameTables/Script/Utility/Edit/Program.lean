import NameTables.Script.Regex.Reading
import NameTables.Script.Utility.Basic

/-!
# Programs that edit lines

The instructions that are carried out for each line of a text, with the addresses that tell for which
lines.

## Main definitions

* `Edit.Address`, `Edit.Addressing` — single lines, and ranges of them.
* `Edit.Instruction` — what is done.
* `Edit.Program` — instructions in order.
-/

namespace NameTables.Script.Edit

/-- A regular expression with what belongs to it. -/
structure Expression where
  /-- The regular expression; the one that was used last if there is none. -/
  regex : Option Regex
  /-- Is the case of letters of no concern? -/
  anyCase : Bool

/-- Some lines. -/
inductive Address
  /-- The line with a number. -/
  | line (n : Nat)
  /-- Every so many lines, from a number on. -/
  | every (first step : Nat)
  /-- The last line. -/
  | last
  /-- The lines that an expression matches. -/
  | matching (e : Expression)

/-- Where a range of lines ends. -/
inductive RangeEnd
  /-- At an address. -/
  | address (a : Address)
  /-- So many lines further down. -/
  | after (n : Nat)
  /-- At the next line whose number is a multiple. -/
  | multiple (n : Nat)

/-- The lines for which something is done. -/
structure Addressing where
  /-- The lines, or the first one of a range; all lines if there is nothing. -/
  first : Option Address
  /-- The end of a range. -/
  last : Option RangeEnd
  /-- Is it done for all other lines instead? -/
  negated : Bool

/-- What letters become. -/
inductive Casing
  /-- They stay. -/
  | keep
  /-- They become upper case. -/
  | upper
  /-- They become lower case. -/
  | lower
  deriving DecidableEq

/-- A part of what something is replaced by. -/
inductive Part
  /-- A text. -/
  | text (s : Text)
  /-- What a group has taken, or the whole match for zero. -/
  | group (n : Nat)
  /-- What letters become from here on. -/
  | casing (c : Casing)
  /-- What the next letter becomes. -/
  | once (c : Casing)

/-- What is done with matches. -/
structure Substitution where
  /-- What is looked for. -/
  expression : Expression
  /-- What it is replaced by. -/
  parts : List Part
  /-- Which match is the first one that is replaced. -/
  first : Nat
  /-- Are all further ones replaced, too? -/
  all : Bool
  /-- Is the result printed? -/
  prints : Bool
  /-- Is the result carried out? -/
  runs : Bool
  /-- The file to which the result is written. -/
  file : Option Text

/-- What is done with a line. -/
inductive Action
  /-- Go on behind the end of a block unless the line is meant. -/
  | block (stop : Nat)
  /-- Nothing. -/
  | nothing
  /-- Print the number. -/
  | tellNumber
  /-- Print a text behind the line. -/
  | append (s : Text)
  /-- Print a text in front of the line. -/
  | insert (s : Text)
  /-- Print a text instead of the lines. -/
  | change (s : Text)
  /-- Go on at a label, or at the end. -/
  | jump (label : Text)
  /-- Go on at a label if something has been replaced. -/
  | jumpIf (label : Text)
  /-- Go on at a label if nothing has been replaced. -/
  | jumpUnless (label : Text)
  /-- A label. -/
  | label (name : Text)
  /-- Drop the text. -/
  | drop
  /-- Drop the first line of the text, and begin again with the rest. -/
  | dropLine
  /-- Carry out a command, or the text if there is none. -/
  | run (command : Text)
  /-- Print the name of the file. -/
  | tellName
  /-- Take the kept text. -/
  | get
  /-- Add the kept text. -/
  | addKept
  /-- Keep the text. -/
  | keep
  /-- Add the text to the kept one. -/
  | addToKept
  /-- Take the kept text, and keep this one. -/
  | swap
  /-- Print the text in a form that leaves no doubt, in lines of a width. -/
  | show (width : Option Nat)
  /-- Go on with the next line. -/
  | next
  /-- Add the next line. -/
  | addNext
  /-- Print the text. -/
  | print
  /-- Print the first line of the text. -/
  | printLine
  /-- End with a status. -/
  | quit (status : Nat)
  /-- End with a status, without printing anything. -/
  | abort (status : Nat)
  /-- Print a file behind the line. -/
  | read (file : Text)
  /-- Print one more line of a file behind the line. -/
  | readLine (file : Text)
  /-- Replace matches. -/
  | substitute (s : Substitution)
  /-- Write the text to a file. -/
  | write (file : Text)
  /-- Write the first line of the text to a file. -/
  | writeLine (file : Text)
  /-- Replace characters by others. -/
  | translate (pairs : List (Char × Char))
  /-- Empty the text. -/
  | clear

/-- An instruction. -/
structure Instruction where
  /-- The lines for which it is carried out. -/
  lines : Addressing
  /-- What it does. -/
  action : Action

/-- Instructions in order. -/
abbrev Program := Array Instruction

/-- The files to which a program writes. -/
def filesOf (p : Program) : List Text :=
  (p.toList.filterMap fun i =>
    match i.action with
    | .write file => some file
    | .writeLine file => some file
    | .substitute s => s.file
    | _ => none).eraseDups

/-- Where a label is in a program; of several the last one counts. -/
def placeOf? (p : Program) (label : Text) : Option Nat :=
  let found := p.toList.reverse.findIdx? fun i =>
    match i.action with
    | .label name => name = label
    | _ => false
  found.map (p.size - 1 - ·)

end NameTables.Script.Edit
