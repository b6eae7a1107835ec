import NameTables.Text.Basic

/-!
# Blanks

The blanks are the characters with the Unicode property `White_Space`: the ones that trimming
removes, that separate words, and that may stand between the parts of a macro definition.

## Main definitions

* `isBlank` — the character class.
* `Text.trim`, `Text.trimEnd` — a text without the blanks at its ends.
* `Text.words` — the maximal runs of characters that are no blanks.
-/

namespace NameTables

/-- A character with the Unicode property `White_Space`. -/
def isBlank (c : Char) : Bool :=
  let n := c.toNat
  (0x09 ≤ n && n ≤ 0x0D) || n == 0x20 || n == 0x85 || n == 0xA0 || n == 0x1680
    || (0x2000 ≤ n && n ≤ 0x200A) || n == 0x2028 || n == 0x2029 || n == 0x202F || n == 0x205F
    || n == 0x3000

namespace Text

/-- The text without the blanks it begins with. -/
def trimStart (s : Text) : Text := s.dropWhile isBlank

/-- The text without the blanks it ends with. -/
def trimEnd (s : Text) : Text := (s.reverse.dropWhile isBlank).reverse

/-- The text without the blanks at either end. -/
def trim (s : Text) : Text := trimEnd (trimStart s)

/-- The non-empty pieces between blanks. -/
def words (s : Text) : List Text := (pieces isBlank s).filter (!·.isEmpty)

@[simp] theorem trim_nil : trim [] = [] := rfl

@[simp] theorem words_nil : words [] = [] := rfl

end Text

end NameTables
