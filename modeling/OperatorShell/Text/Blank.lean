import OperatorShell.Text.Ranges

/-!
# White space

Blankness follows the Unicode property `White_Space`, so the no-break space and
the ideographic space are blank too.  Trimming, the test for a blank line and the
word motions of the editor all use this one set.
-/

namespace OperatorShell.Text

/-- The characters with the property `White_Space`. -/
def blanks : Ranges :=
  [(0x09, 0x0D), (0x20, 0x20), (0x85, 0x85), (0xA0, 0xA0), (0x1680, 0x1680),
   (0x2000, 0x200A), (0x2028, 0x2029), (0x202F, 0x202F), (0x205F, 0x205F),
   (0x3000, 0x3000)]

/-- Whether the character is white space. -/
def isBlank (character : Char) : Bool := blanks.contains character

/-- A text is blank when it holds nothing but white space. -/
def isBlankText (text : List Char) : Bool := text.all isBlank

/-- The text without its trailing white space. -/
def trimEnd (text : List Char) : List Char :=
  (text.reverse.dropWhile isBlank).reverse

@[simp] theorem isBlank_space : isBlank ' ' = true := rfl

end OperatorShell.Text
