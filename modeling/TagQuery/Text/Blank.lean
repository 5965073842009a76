import TagQuery.Text.Basic

/-!
# Blank characters

The Unicode property White_Space, and what is built on it: trimming both ends of a text, and the
words of a text, which are its longest runs of characters that are not blank.

This class is wider than the white space inside tags: the vertical tab and the no-break space are
blank, and they separate the words of an attribute's value, but not the attributes.
-/

namespace TagQuery.Text

/-- Unicode White_Space. The zero-width space and the byte-order mark are not in it. -/
def isBlank (c : Char) : Bool :=
  let n := c.toNat
  (0x09 ≤ n && n ≤ 0x0d) || n == 0x20 || n == 0x85 || n == 0xa0 || n == 0x1680 ||
    (0x2000 ≤ n && n ≤ 0x200a) || n == 0x2028 || n == 0x2029 || n == 0x202f || n == 0x205f ||
    n == 0x3000

/-- The white space inside tags is blank. -/
theorem isBlank_of_isSpace {c : Char} (space : isSpace c = true) : isBlank c = true := by
  simp only [isSpace, Bool.or_eq_true, beq_iff_eq] at space
  rcases space with (((rfl | rfl) | rfl) | rfl) | rfl <;> decide

/-- Whether no character of the text is other than blank. -/
def allBlank (text : Text) : Bool := text.all isBlank

/-- A text without its leading blanks. -/
def trimStart (text : Text) : Text := text.dropWhile isBlank

/-- A text without its trailing blanks. -/
def trimEnd (text : Text) : Text := (text.reverse.dropWhile isBlank).reverse

/-- A text without the blanks at both ends. -/
def trim (text : Text) : Text := trimEnd (trimStart text)

/-- The words of a text: the longest runs of characters that are not blank, in order. -/
def words (text : Text) : List Text := (splitWhere isBlank text).filter (!·.isEmpty)

end TagQuery.Text
