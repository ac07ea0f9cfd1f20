import OperatorShell.Line.Quoting
import OperatorShell.Text.Bytes

/-!
# Pieces of a line

A line is cut at every space outside quotes.  What stands between two cuts is a
piece; runs of spaces make no empty pieces, and every piece keeps the raw text and
the byte offset that it has in the line.
-/

namespace OperatorShell.Line

open OperatorShell.Text

/-- A part of a line between unquoted spaces. -/
structure Piece where
  /-- Byte offset of the first character. -/
  start : Nat
  /-- Raw text, quotes included. -/
  text : List Char
  deriving DecidableEq, Repr

namespace Piece

/-- Byte offset right after the last character. -/
def stop (piece : Piece) : Nat := piece.start + byteLength piece.text

/-- The piece with this text, if there is any text. -/
def ofText (start : Nat) (text : List Char) : List Piece :=
  if text = [] then [] else [⟨start, text⟩]

@[simp] theorem ofText_nil (start : Nat) : ofText start [] = [] := rfl

@[simp] theorem ofText_cons (start : Nat) (character : Char)
    (rest : List Char) :
    ofText start (character :: rest) = [⟨start, character :: rest⟩] := rfl

end Piece

/-- Read on from a byte offset in the middle of a piece: the rest of that piece,
and the pieces after it. -/
def cut : Nat → Quoting → List Char → List Char × List Piece
  | _, _, [] => ([], [])
  | offset, state, character :: rest =>
      let offset' := offset + character.utf8Size
      if state = .plain ∧ character = ' ' then
        let next := cut offset' .plain rest
        ([], Piece.ofText offset' next.1 ++ next.2)
      else
        let next := cut offset' (state.step character) rest
        (character :: next.1, next.2)

/-- The pieces of a line, from left to right. -/
def split (line : List Char) : List Piece :=
  let first := cut 0 .plain line
  Piece.ofText 0 first.1 ++ first.2

end OperatorShell.Line
