import OperatorShell.Toml.Statement

/-!
# TOML documents

A document is read as a sequence of statements, which then build up its tables one
after another.  A document in which a statement contradicts an earlier one is refused
as a whole.
-/

namespace OperatorShell.Toml

/-- A document while its statements are taken in. -/
structure Draft where
  /-- Path of the table that assignments go to. -/
  current : List String
  root : Entries

namespace Draft

/-- The document without statements. -/
def empty : Draft := ⟨[], []⟩

/-- Take in a statement. -/
def take? (draft : Draft) : Statement → Option Draft
  | .header path =>
      path.getLast?.bind fun key =>
        (draft.root.open? path.dropLast key).map (⟨path, ·⟩)
  | .nextHeader path =>
      path.getLast?.bind fun key =>
        (draft.root.openNext? path.dropLast key).map (⟨path, ·⟩)
  | .assignment path value =>
      (draft.root.change? false (assignPath? path value) draft.current .header).map
        (⟨draft.current, ·⟩)

end Draft

/-- The text without a byte order mark at its start. -/
def dropMark : List Char → List Char
  | '\ufeff' :: rest => rest
  | text => text

/-- Read a document. -/
def parse? (text : String) : Option Entries := do
  let statements ← readStatements? (dropMark text.toList)
  let draft ← statements.foldlM Draft.take? .empty
  return draft.root

end OperatorShell.Toml
