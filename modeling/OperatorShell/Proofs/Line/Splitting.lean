import OperatorShell.Line.Piece

/-!
# Splitting joined texts

A text that ends outside quotes is closed off by a space: what is written behind the space
is cut as if it stood alone, only further to the right.  A quoted value is one piece that
ends outside quotes, and its content is the value.
-/

namespace OperatorShell.Line

open OperatorShell.Text

namespace Piece

/-- The piece with its offset moved to the right. -/
def shift (distance : Nat) (piece : Piece) : Piece :=
  { piece with start := piece.start + distance }

@[simp] theorem text_shift (distance : Nat) (piece : Piece) :
    (piece.shift distance).text = piece.text := rfl

@[simp] theorem map_shift_ofText (distance start : Nat) (text : List Char) :
    (ofText start text).map (shift distance) = ofText (start + distance) text := by
  cases text <;> rfl

@[simp] theorem map_shift_map_shift (distance more : Nat) (pieces : List Piece) :
    (pieces.map (shift distance)).map (shift more) = pieces.map (shift (distance + more)) := by
  simp [shift, Function.comp_def, Nat.add_assoc]

theorem mem_ofText_iff {start : Nat} {text : List Char} {piece : Piece} :
    piece ∈ ofText start text ↔ text ≠ [] ∧ piece = ⟨start, text⟩ := by
  cases text <;> simp

end Piece

/-- The text ends outside quotes. -/
def IsClosed (text : List Char) : Prop := Quoting.plain.after text = .plain

instance (text : List Char) : Decidable (IsClosed text) :=
  inferInstanceAs (Decidable (_ = _))

/-- The text is a piece when it stands alone. -/
def IsPiece (text : List Char) : Prop := split text = [⟨0, text⟩]

instance (text : List Char) : Decidable (IsPiece text) :=
  inferInstanceAs (Decidable (_ = _))

section Cutting

variable {offset : Nat} {state : Quoting} {front text : List Char}

theorem cut_shift (distance offset : Nat) (state : Quoting) (text : List Char) :
    cut (offset + distance) state text =
      ((cut offset state text).1, (cut offset state text).2.map (Piece.shift distance)) := by
  induction text generalizing offset state with
  | nil => rfl
  | cons character rest ih =>
      have moved : offset + distance + character.utf8Size =
          offset + character.utf8Size + distance := Nat.add_right_comm _ _ _
      simp only [cut, moved, ih]
      split <;> simp

theorem split_shift (distance : Nat) (text : List Char) :
    Piece.ofText distance (cut distance .plain text).1 ++ (cut distance .plain text).2 =
      (split text).map (Piece.shift distance) := by
  have moved := cut_shift distance 0 .plain text
  rw [Nat.zero_add] at moved
  simp [split, moved]

/-- Behind a space outside quotes cutting starts anew. -/
theorem cut_append_space (closed : state.after front = .plain) (back : List Char) :
    cut offset state (front ++ ' ' :: back) =
      ((cut offset state front).1,
        (cut offset state front).2 ++
          (split back).map (Piece.shift (offset + byteLength front + 1))) := by
  induction front generalizing offset state with
  | nil =>
      have outside : state = .plain := closed
      subst outside
      have width : ' '.utf8Size = 1 := rfl
      simp [cut, width, split_shift]
  | cons character rest ih =>
      have later := @ih (offset + character.utf8Size) (state.step character) closed
      rw [Nat.add_assoc offset] at later
      simp only [List.cons_append, cut, byteLength_cons]
      split
      · rename_i separates
        obtain ⟨rfl, rfl⟩ := separates
        rw [Quoting.plain_step_space] at later
        simp [later]
      · simp [later]

/-- What is written behind a space is cut as if it stood alone. -/
theorem split_append_space (closed : IsClosed front) (back : List Char) :
    split (front ++ ' ' :: back) =
      split front ++ (split back).map (Piece.shift (byteLength front + 1)) := by
  have behind := @cut_append_space 0 .plain front closed back
  rw [Nat.zero_add] at behind
  simp [split, behind]

/-- A closing space adds nothing. -/
theorem split_concat_space (closed : IsClosed front) : split (front ++ [' ']) = split front := by
  have behind := split_append_space closed []
  simpa [split, cut] using behind

/-- Cutting stays within the text. -/
theorem stop_le_of_cut (offset : Nat) (state : Quoting) (text : List Char) :
    offset + byteLength (cut offset state text).1 ≤ offset + byteLength text ∧
      ∀ piece ∈ (cut offset state text).2, piece.stop ≤ offset + byteLength text := by
  induction text generalizing offset state with
  | nil => simp [cut]
  | cons character rest ih =>
      simp only [cut, byteLength_cons, ← Nat.add_assoc]
      split
      · obtain ⟨first, later⟩ := ih (offset + character.utf8Size) .plain
        refine ⟨by simp [Nat.add_assoc], ?_⟩
        intro piece member
        rcases List.mem_append.mp member with here | there
        · obtain ⟨-, rfl⟩ := Piece.mem_ofText_iff.mp here
          exact first
        · exact later piece there
      · obtain ⟨first, later⟩ := ih (offset + character.utf8Size) (state.step character)
        refine ⟨?_, later⟩
        simpa [← Nat.add_assoc] using first

theorem stop_le_of_mem_split {piece : Piece} (member : piece ∈ split text) :
    piece.stop ≤ byteLength text := by
  obtain ⟨first, later⟩ := stop_le_of_cut 0 .plain text
  rw [Nat.zero_add] at first later
  rcases List.mem_append.mp member with here | there
  · obtain ⟨-, rfl⟩ := Piece.mem_ofText_iff.mp here
    simpa [Piece.stop] using first
  · exact later piece there

/-- Texts written behind a first one, with a space before each. -/
def spaced (first : List Char) (texts : List (List Char)) : List Char :=
  first ++ texts.flatMap (' ' :: ·)

/-- Texts that are pieces are the pieces behind the first text, as long as quotes are left
open at most by the last one. -/
theorem split_spaced (first : List Char) (texts : List (List Char))
    (pieces : ∀ text ∈ texts, IsPiece text)
    (closed : ∀ text ∈ (first :: texts).dropLast, IsClosed text) :
    ∃ behind, split (spaced first texts) = split first ++ behind ∧
      behind.map Piece.text = texts := by
  induction texts generalizing first with
  | nil => exact ⟨[], by simp [spaced], rfl⟩
  | cons text rest ih =>
      obtain ⟨single, others⟩ := List.forall_mem_cons.mp pieces
      rw [List.dropLast_cons_cons] at closed
      obtain ⟨closedFirst, closedOthers⟩ := List.forall_mem_cons.mp closed
      obtain ⟨behind, cutRest, same⟩ := ih text others closedOthers
      have line : spaced first (text :: rest) = first ++ ' ' :: spaced text rest := by
        simp [spaced]
      refine ⟨(split (spaced text rest)).map (Piece.shift (byteLength first + 1)), ?_, ?_⟩
      · rw [line, split_append_space closedFirst]
      · rw [IsPiece] at single
        simp [cutRest, single, Function.comp_def, same]

end Cutting

section Quoted

variable {value : List Char}

theorem needsQuotes_eq_false_iff {character : Char} :
    needsQuotes character = false ↔
      character ≠ ' ' ∧ character ≠ '"' ∧ character ≠ '\\' := by
  simp [needsQuotes, and_assoc]

/-- A value that needs no quotes is read as it stands. -/
theorem bare_reading (offset : Nat)
    (bare : ∀ character ∈ value, needsQuotes character = false) :
    cut offset .plain value = (value, []) ∧ Quoting.plain.after value = .plain ∧
      contents .plain value = value := by
  induction value generalizing offset with
  | nil => exact ⟨rfl, rfl, rfl⟩
  | cons character rest ih =>
      obtain ⟨here, later⟩ := List.forall_mem_cons.mp bare
      obtain ⟨noSpace, noQuote, -⟩ := needsQuotes_eq_false_iff.mp here
      obtain ⟨whole, closed, content⟩ := ih (offset + character.utf8Size) later
      have stays : Quoting.plain.step character = .plain := by simp [Quoting.step, noQuote]
      refine ⟨?_, ?_, ?_⟩
      · simp [cut, noSpace, stays, whole]
      · rw [Quoting.after_cons, stays, closed]
      · simp [contents, noQuote, content]

/-- No space separates inside quotes, and the escaped form leaves them only at the closing
mark. -/
theorem cut_escape (offset : Nat) (value : List Char) :
    cut offset .quoted (escape value ++ ['"']) = (escape value ++ ['"'], []) := by
  induction value generalizing offset with
  | nil => simp [escape, cut]
  | cons character rest ih =>
      by_cases marked : character = '"' ∨ character = '\\'
      · rcases marked with rfl | rfl <;> simp [escape, cut, Quoting.step, ih]
      · have unmarked := not_or.mp marked
        simp [escape, cut, Quoting.step, unmarked.1, unmarked.2, ih]

/-- A value is written bare or between quotes. -/
theorem quote_cases (value : List Char) :
    value ≠ [] ∧ (∀ character ∈ value, needsQuotes character = false) ∧
        quote value = value ∨
      quote value = '"' :: (escape value ++ ['"']) := by
  rw [quote]
  split
  · rename_i bare
    exact .inl ⟨bare.1, by simpa using bare.2, rfl⟩
  · exact .inr rfl

/-- A value that was written is one piece. -/
theorem isPiece_quote (value : List Char) : IsPiece (quote value) := by
  rcases quote_cases value with ⟨nonempty, bare, same⟩ | same
  · rw [same, IsPiece, split, (bare_reading 0 bare).1]
    simp [Piece.ofText, nonempty]
  · rw [same, IsPiece, split]
    simp [cut, Quoting.step, cut_escape]

theorem isClosed_quote (value : List Char) : IsClosed (quote value) := by
  rcases quote_cases value with ⟨-, bare, same⟩ | same
  · rw [same]
    exact (bare_reading 0 bare).2.1
  · rw [same, IsClosed, Quoting.after_cons, Quoting.after_append]
    have inside : Quoting.plain.step '"' = .quoted := rfl
    rw [inside, quoted_after_escape]
    rfl

/-- Reading takes back what writing did. -/
theorem unquote_quote (value : List Char) : unquote (quote value) = value := by
  rcases quote_cases value with ⟨-, bare, same⟩ | same
  · rw [same]
    exact (bare_reading 0 bare).2.2
  · rw [same, unquote, contents, if_pos rfl, contents_escape]
    simp [contents]

end Quoted

end OperatorShell.Line
