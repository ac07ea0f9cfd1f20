/-!
# Byte offsets in a text

Offsets in a command line count UTF-8 bytes, while the line itself is a list of
characters.  `byteLength` measures a text, `slice` cuts a text between two byte
offsets, and `slice_append` says that a slice along character boundaries is the
middle part of the text.
-/

namespace OperatorShell.Text

/-- Number of bytes that the text takes in UTF-8. -/
def byteLength : List Char → Nat
  | [] => 0
  | character :: rest => character.utf8Size + byteLength rest

@[simp] theorem byteLength_nil : byteLength [] = 0 := rfl

@[simp] theorem byteLength_cons (character : Char) (rest : List Char) :
    byteLength (character :: rest) = character.utf8Size + byteLength rest := rfl

@[simp] theorem byteLength_append (left right : List Char) :
    byteLength (left ++ right) = byteLength left + byteLength right := by
  induction left with
  | nil => simp
  | cons character rest ih => simp [ih, Nat.add_assoc]

theorem byteLength_pos_of_ne_nil {text : List Char} (nonempty : text ≠ []) :
    0 < byteLength text := by
  cases text with
  | nil => exact absurd rfl nonempty
  | cons character rest =>
      have positive := character.utf8Size_pos
      simp only [byteLength_cons]
      omega

/-- The characters that start before the given byte offset. -/
def takeBytes : Nat → List Char → List Char
  | _, [] => []
  | bytes, character :: rest =>
      if bytes = 0 then []
      else character :: takeBytes (bytes - character.utf8Size) rest

/-- The characters that start at the given byte offset or after it. -/
def dropBytes : Nat → List Char → List Char
  | _, [] => []
  | bytes, character :: rest =>
      if bytes = 0 then character :: rest
      else dropBytes (bytes - character.utf8Size) rest

/-- The part of the text between two byte offsets. -/
def slice (start stop : Nat) (text : List Char) : List Char :=
  takeBytes (stop - start) (dropBytes start text)

@[simp] theorem dropBytes_append (left right : List Char) :
    dropBytes (byteLength left) (left ++ right) = right := by
  induction left with
  | nil => cases right <;> simp [dropBytes]
  | cons character rest ih =>
      have nonzero : character.utf8Size ≠ 0 := Nat.ne_of_gt character.utf8Size_pos
      simp [dropBytes, nonzero, ih]

@[simp] theorem takeBytes_append (left right : List Char) :
    takeBytes (byteLength left) (left ++ right) = left := by
  induction left with
  | nil => cases right <;> simp [takeBytes]
  | cons character rest ih =>
      have nonzero : character.utf8Size ≠ 0 := Nat.ne_of_gt character.utf8Size_pos
      simp [takeBytes, nonzero, ih]

/-- A slice along character boundaries is the middle part. -/
@[simp] theorem slice_append (left middle right : List Char) :
    slice (byteLength left) (byteLength left + byteLength middle)
      (left ++ (middle ++ right)) = middle := by
  simp [slice]

end OperatorShell.Text
