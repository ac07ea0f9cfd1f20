/-!
# Sets of characters given by ranges

Unicode properties are closed ranges of code points.  This module holds the one
membership test that every property table of the library uses.
-/

namespace OperatorShell.Text

/-- A set of characters as closed ranges of code points. -/
abbrev Ranges := List (Nat × Nat)

namespace Ranges

/-- Whether some range holds the character. -/
def contains (ranges : Ranges) (character : Char) : Bool :=
  ranges.any fun range => range.1 ≤ character.toNat && character.toNat ≤ range.2

end Ranges

end OperatorShell.Text
