import NameTables.Text.Printable
import NameTables.Text.Basic

/-!
# Quoted texts

The form in which a message shows a path exactly: between double quotes, with a backslash before
the quote and the backslash itself, and every character that does not print as itself by a short
escape or by its code point.

## Main definitions

* `hexText` — a number in lower-case hexadecimal.
* `Text.quoted` — the quoted form.
-/

namespace NameTables

/-- A number in lower-case hexadecimal digits, without leading zeros. -/
def hexText (n : Nat) : Text := Nat.toDigits 16 n

/-- One character inside quotes. -/
def quotedChar (c : Char) : Text :=
  if c = '\x22' then "\\\"".toList
  else if c = '\\' then "\\\\".toList
  else if c = '\x00' then "\\0".toList
  else if c = '\t' then "\\t".toList
  else if c = '\n' then "\\n".toList
  else if c = '\r' then "\\r".toList
  else if isPrintable c then [c]
  else "\\u\x7b".toList ++ hexText c.toNat ++ "\x7d".toList

/-- The text between double quotes, escaped so that every character can be told. -/
def Text.quoted (s : Text) : Text := ['\x22'] ++ s.flatMap quotedChar ++ ['\x22']

end NameTables
