import OperatorShell.Proofs.Edit.WellFormed

/-!
# Editing by positions

The operations on a buffer once more, on a text that is a row of characters: every access names a
position, and it fails when the position is out of range.  On a well-formed buffer none fails, and
the operations come to what cutting the text at the cursor comes to.  So no sequence of operations
on a fresh buffer ever leaves the text.
-/

namespace OperatorShell.Edit

open Text

section Accesses

/-- The text with a character at a position, which may be the end. -/
def insertAt? (text : List Char) (position : Nat) (character : Char) : Option (List Char) :=
  if position ≤ text.length then some (text.insertIdx position character) else none

/-- The text without the character at a position. -/
def removeAt? (text : List Char) (position : Nat) : Option (List Char) :=
  if position < text.length then some (text.eraseIdx position) else none

/-- The text with another one in place of the characters between two positions. -/
def replaceBetween? (text : List Char) (start stop : Nat) (inserted : List Char) :
    Option (List Char) :=
  if start ≤ stop ∧ stop ≤ text.length then some (text.take start ++ inserted ++ text.drop stop)
  else none

/-- The characters before a position. -/
def takeUpTo? (text : List Char) (position : Nat) : Option (List Char) :=
  if position ≤ text.length then some (text.take position) else none

/-- Where going back from a position over characters of a kind ends. -/
def backOver? (text : List Char) (kind : Char → Bool) : Nat → Option Nat
  | 0 => some 0
  | position + 1 =>
      text[position]?.bind fun character =>
        if kind character then backOver? text kind position else some (position + 1)

/-- Where going on from a position over characters of a kind ends. -/
def onOver? (text : List Char) (kind : Char → Bool) (position : Nat) : Option Nat :=
  if position < text.length then
    text[position]?.bind fun character =>
      if kind character then onOver? text kind (position + 1) else some position
  else some position
termination_by text.length - position

variable {text : List Char} {position : Nat}

theorem insertAt?_eq (inText : position ≤ text.length) (character : Char) :
    insertAt? text position character =
      some (text.take position ++ character :: text.drop position) := by
  have inserted : text.insertIdx position character =
      text.take position ++ character :: text.drop position := by
    induction position generalizing text with
    | zero => rfl
    | succ position ih =>
        cases text with
        | nil => cases inText
        | cons first rest =>
            rw [List.insertIdx_succ_cons, ih (Nat.le_of_succ_le_succ inText)]
            rfl
  rw [insertAt?, if_pos inText, inserted]

theorem removeAt?_eq (inside : position < text.length) :
    removeAt? text position = some (text.take position ++ text.drop (position + 1)) := by
  rw [removeAt?, if_pos inside, List.eraseIdx_eq_take_drop_succ]

theorem backOver?_eq (inText : position ≤ text.length) (kind : Char → Bool) :
    backOver? text kind position =
      some (position - ((text.take position).reverse.takeWhile kind).length) := by
  induction position with
  | zero => rw [backOver?, Nat.zero_sub]
  | succ position ih =>
      have inside : position < text.length := inText
      rw [backOver?, List.getElem?_eq_getElem inside, Option.bind_some,
        List.take_succ_eq_append_getElem inside, List.reverse_append, List.reverse_singleton,
        List.singleton_append, List.takeWhile_cons]
      split
      · rw [ih (Nat.le_of_lt inside), List.length_cons, Nat.add_sub_add_right]
      · rfl

theorem onOver?_eq (text : List Char) (kind : Char → Bool) (position : Nat) :
    onOver? text kind position =
      some (position + ((text.drop position).takeWhile kind).length) := by
  rw [onOver?]
  split
  · rename_i inside
    rw [List.getElem?_eq_getElem inside, Option.bind_some, List.drop_eq_getElem_cons inside,
      List.takeWhile_cons]
    split
    · rw [onOver?_eq text kind (position + 1), List.length_cons, Nat.add_right_comm, Nat.add_assoc]
    · rfl
  · rename_i outside
    rw [List.drop_eq_nil_of_le (Nat.le_of_not_lt outside)]
    rfl
termination_by text.length - position

theorem drop_length_takeWhile (text : List Char) (kind : Char → Bool) :
    text.drop (text.takeWhile kind).length = text.dropWhile kind := by
  have cut : (text.takeWhile kind ++ text.dropWhile kind).drop (text.takeWhile kind).length =
      text.dropWhile kind := List.drop_left
  rwa [List.takeWhile_append_dropWhile] at cut

end Accesses

namespace Buffer

/-- Change a buffer that is not complete, where the change can be made. -/
def edit? (buffer : Buffer) (change : Buffer → Option Buffer) : Option Buffer :=
  match buffer.status with
  | .active => change buffer
  | .complete => some buffer

/-- The text before the cursor. -/
def before? (buffer : Buffer) : Option (List Char) := takeUpTo? buffer.text buffer.cursor

/-- The start of the word before the cursor: back over white space, and back over the word. -/
def wordStart? (buffer : Buffer) : Option Nat :=
  (backOver? buffer.text isBlank buffer.cursor).bind (backOver? buffer.text (!isBlank ·))

/-- The end of the word after the cursor: on over white space, and on over the word. -/
def wordEnd? (buffer : Buffer) : Option Nat :=
  (onOver? buffer.text isBlank buffer.cursor).bind (onOver? buffer.text (!isBlank ·))

def insert? (buffer : Buffer) (character : Char) : Option Buffer :=
  buffer.edit? fun buffer =>
    (insertAt? buffer.text buffer.cursor character).map fun text =>
      { buffer with text := text, cursor := buffer.cursor + 1 }

def deleteLeft? (buffer : Buffer) : Option Buffer :=
  buffer.edit? fun buffer =>
    if buffer.cursor = 0 then some buffer
    else
      (removeAt? buffer.text (buffer.cursor - 1)).map fun text =>
        { buffer with text := text, cursor := buffer.cursor - 1 }

def deleteRight? (buffer : Buffer) : Option Buffer :=
  buffer.edit? fun buffer =>
    if buffer.length ≤ buffer.cursor then some buffer
    else (removeAt? buffer.text buffer.cursor).map fun text => { buffer with text := text }

def deleteWordLeft? (buffer : Buffer) : Option Buffer :=
  buffer.edit? fun buffer =>
    buffer.wordStart?.bind fun start =>
      (replaceBetween? buffer.text start buffer.cursor []).map fun text =>
        { buffer with text := text, cursor := start }

def deleteWordRight? (buffer : Buffer) : Option Buffer :=
  buffer.edit? fun buffer =>
    buffer.wordEnd?.bind fun stop =>
      (replaceBetween? buffer.text buffer.cursor stop []).map fun text =>
        { buffer with text := text }

def moveWordLeft? (buffer : Buffer) : Option Buffer :=
  buffer.edit? fun buffer =>
    buffer.wordStart?.map fun start => { buffer with cursor := start }

def moveWordRight? (buffer : Buffer) : Option Buffer :=
  buffer.edit? fun buffer => buffer.wordEnd?.map fun stop => { buffer with cursor := stop }

def splice? (buffer : Buffer) (start stop : Nat) (inserted : List Char) : Option Buffer :=
  buffer.edit? fun buffer =>
    let stop := min stop buffer.length
    let start := min start stop
    (replaceBetween? buffer.text start stop inserted).map fun text =>
      { buffer with text := text, cursor := start + inserted.length }

end Buffer

/-- The buffer after a call, if all accesses are in range. -/
def Call.apply? (call : Call) (buffer : Buffer) : Option Buffer :=
  match call with
  | insert character => buffer.insert? character
  | insertText text => text.foldlM Buffer.insert? buffer
  | deleteLeft => buffer.deleteLeft?
  | deleteRight => buffer.deleteRight?
  | deleteWordLeft => buffer.deleteWordLeft?
  | deleteWordRight => buffer.deleteWordRight?
  | moveWordLeft => buffer.moveWordLeft?
  | moveWordRight => buffer.moveWordRight?
  | splice start stop inserted => buffer.splice? start stop inserted
  -- The other calls look at no character of the text.
  | moveLeft | moveRight | moveHome | moveEnd | replace _ | suggest _ | complete =>
      some (call.apply buffer)

namespace Buffer

/-- The buffer after calls, if all accesses are in range. -/
def run? (buffer : Buffer) (calls : List Call) : Option Buffer :=
  calls.foldlM (fun buffer call => call.apply? buffer) buffer

theorem edit?_eq {buffer : Buffer} {change? : Buffer → Option Buffer} {change : Buffer → Buffer}
    (changed : change? buffer = some (change buffer)) :
    buffer.edit? change? = some (buffer.edit change) := by
  cases status : buffer.status with
  | active => rw [edit?, edit, status, changed]
  | complete => rw [edit?, edit, status]

theorem wordEnd?_eq (buffer : Buffer) : buffer.wordEnd? = some buffer.wordEnd := by
  have beyond (count : Nat) : buffer.text.drop (buffer.cursor + count) = buffer.after.drop count :=
    List.drop_drop.symm
  rw [wordEnd?, onOver?_eq, Option.bind_some, onOver?_eq, beyond, ← after, drop_length_takeWhile,
    Nat.add_assoc]
  rfl

theorem deleteRight?_eq (buffer : Buffer) : buffer.deleteRight? = some buffer.deleteRight := by
  refine edit?_eq ?_
  split
  · rename_i atEnd
    have nothing : buffer.after = [] := List.drop_eq_nil_of_le atEnd
    have whole : buffer.before = buffer.text := List.take_of_length_le atEnd
    rw [nothing, whole, List.drop_nil, List.append_nil]
  · rename_i inside
    have beyond : buffer.text.drop (buffer.cursor + 1) = buffer.after.drop 1 := List.drop_drop.symm
    rw [removeAt?_eq (Nat.lt_of_not_le inside), beyond]
    rfl

theorem moveWordRight?_eq (buffer : Buffer) : buffer.moveWordRight? = some buffer.moveWordRight := by
  refine edit?_eq ?_
  rw [wordEnd?_eq]
  rfl

/-- Any two positions will do, in any order. -/
theorem splice?_eq (buffer : Buffer) (start stop : Nat) (inserted : List Char) :
    buffer.splice? start stop inserted = some (buffer.splice start stop inserted) := by
  refine edit?_eq ?_
  exact congrArg (Option.map _) (if_pos ⟨Nat.min_le_right .., Nat.min_le_right ..⟩)

namespace WellFormed

variable {buffer : Buffer}

theorem before?_eq (wellFormed : buffer.WellFormed) : buffer.before? = some buffer.before :=
  if_pos wellFormed.cursor_le

theorem wordStart?_eq (wellFormed : buffer.WellFormed) :
    buffer.wordStart? = some buffer.wordStart := by
  have inText : buffer.cursor ≤ buffer.text.length := wellFormed.cursor_le
  let blanks := (buffer.before.reverse.takeWhile isBlank).length
  -- Read backwards, what is left before the white space is the text without its first characters.
  have behind : (buffer.text.take (buffer.cursor - blanks)).reverse =
      buffer.before.reverse.dropWhile isBlank := by
    rw [← drop_length_takeWhile, List.drop_reverse, wellFormed.length_before, before,
      List.take_take, Nat.min_eq_left (Nat.sub_le ..)]
    rfl
  rw [wordStart?, backOver?_eq inText, Option.bind_some,
    backOver?_eq (Nat.le_trans (Nat.sub_le ..) inText), ← before, behind, Nat.sub_sub,
    wordStart, wellFormed.length_before]
  rfl

theorem insert?_eq (wellFormed : buffer.WellFormed) (character : Char) :
    buffer.insert? character = some (buffer.insert character) := by
  refine edit?_eq ?_
  rw [insertAt?_eq wellFormed.cursor_le]
  rfl

theorem insertText?_eq (wellFormed : buffer.WellFormed) (text : List Char) :
    text.foldlM insert? buffer = some (buffer.insertText text) := by
  induction text generalizing buffer with
  | nil => rfl
  | cons character rest ih =>
      rw [List.foldlM_cons, wellFormed.insert?_eq]
      exact ih (wellFormed.insert character)

theorem deleteLeft?_eq (wellFormed : buffer.WellFormed) :
    buffer.deleteLeft? = some buffer.deleteLeft := by
  refine edit?_eq ?_
  split
  · rename_i atStart
    cases buffer
    subst atStart
    rfl
  · rename_i behind
    have inside : buffer.cursor - 1 < buffer.text.length :=
      Nat.lt_of_lt_of_le (Nat.sub_one_lt behind) wellFormed.cursor_le
    rw [removeAt?_eq inside, Nat.sub_one_add_one behind]
    rfl

theorem deleteWordLeft?_eq (wellFormed : buffer.WellFormed) :
    buffer.deleteWordLeft? = some buffer.deleteWordLeft := by
  refine edit?_eq ?_
  rw [wellFormed.wordStart?_eq, Option.bind_some, replaceBetween?,
    if_pos ⟨wellFormed.wordStart_le, wellFormed.cursor_le⟩, List.append_nil]
  rfl

theorem deleteWordRight?_eq (wellFormed : buffer.WellFormed) :
    buffer.deleteWordRight? = some buffer.deleteWordRight := by
  refine edit?_eq ?_
  rw [wordEnd?_eq, Option.bind_some, replaceBetween?,
    if_pos ⟨Nat.le_add_right .., wellFormed.wordEnd_le⟩, List.append_nil]
  rfl

theorem moveWordLeft?_eq (wellFormed : buffer.WellFormed) :
    buffer.moveWordLeft? = some buffer.moveWordLeft := by
  refine edit?_eq ?_
  rw [wellFormed.wordStart?_eq]
  rfl

/-- Calls on a well-formed buffer stay in range, and come to what cutting the text comes to. -/
theorem apply?_eq (wellFormed : buffer.WellFormed) (call : Call) :
    call.apply? buffer = some (call.apply buffer) := by
  cases call with
  | insert character => exact wellFormed.insert?_eq character
  | insertText text => exact wellFormed.insertText?_eq text
  | deleteLeft => exact wellFormed.deleteLeft?_eq
  | deleteRight => exact buffer.deleteRight?_eq
  | deleteWordLeft => exact wellFormed.deleteWordLeft?_eq
  | deleteWordRight => exact wellFormed.deleteWordRight?_eq
  | moveWordLeft => exact wellFormed.moveWordLeft?_eq
  | moveWordRight => exact buffer.moveWordRight?_eq
  | splice start stop inserted => exact buffer.splice?_eq start stop inserted
  | _ => rfl

theorem run?_eq (wellFormed : buffer.WellFormed) (calls : List Call) :
    buffer.run? calls = some (buffer.run calls) := by
  induction calls generalizing buffer with
  | nil => rfl
  | cons call rest ih =>
      rw [run?, List.foldlM_cons, wellFormed.apply?_eq]
      exact ih (wellFormed.apply call)

end WellFormed

/-- Calls never take a fresh buffer out of its text: every access is in range, the cursor is within
the text and cuts it, a suggestion is one line that is there, a motion changes the text only by
accepting the suggestion at the end, and after completion nothing changes any more. -/
theorem run_wellFormed {start : Buffer} (fresh : start = empty ∨ ∃ text, start = ofText text)
    (calls : List Call) :
    let buffer := start.run calls
    start.run? calls = some buffer ∧
      buffer.cursor ≤ buffer.length ∧
      (∀ suggestion, buffer.suggestion = some suggestion →
        suggestion ≠ [] ∧ '\n' ∉ suggestion) ∧
      (buffer.before? = some buffer.before ∧ buffer.before <+: buffer.text ∧
        buffer.before.length = buffer.cursor) ∧
      (∀ call : Call, call.IsMotion →
        (call.apply buffer).text = buffer.text ∨ buffer.Accepts (call.apply buffer)) ∧
      (Call.complete ∈ calls →
        buffer.suggestion = none ∧ ∀ later, buffer.run later = buffer) := by
  intro buffer
  have startWellFormed : start.WellFormed := by
    rcases fresh with rfl | ⟨text, rfl⟩
    · exact wellFormed_ofText []
    · exact wellFormed_ofText text
  have wellFormed : buffer.WellFormed := startWellFormed.run calls
  refine ⟨startWellFormed.run?_eq calls, wellFormed.cursor_le, wellFormed.suggestible,
    ⟨wellFormed.before?_eq, List.take_prefix .., wellFormed.length_before⟩,
    fun call motion => wellFormed.text_apply_of_isMotion motion, fun completed => ?_⟩
  have complete : buffer.status = .complete := status_run_of_mem completed startWellFormed
  exact ⟨wellFormed.final complete, wellFormed.run_of_complete complete⟩

/-- The suggestion is accepted, its word deleted again, and the two positions of a replacement come
in the wrong order; what comes after completion is lost. -/
theorem run_wellFormed_swapped_positions :
    let calls : List Call :=
      [.suggest (some [' ', 'u', 'p']), .moveEnd, .deleteWordLeft, .splice 7 1 ['e', 't'],
        .complete, .insert '!']
    let final : Buffer := ⟨['g', 'e', 't', 'o', ' '], 3, .complete, none⟩
    (ofText ['g', 'o']).run? calls = some final ∧
      final.before? = some ['g', 'e', 't'] ∧ ∀ later, final.run later = final := by
  intro calls final
  have finished : (ofText ['g', 'o']).run calls = final := by decide
  have ⟨inRange, _, _, ⟨cut, _⟩, _, frozen⟩ := run_wellFormed (.inr ⟨['g', 'o'], rfl⟩) calls
  rw [finished] at inRange cut frozen
  exact ⟨inRange, cut, (frozen (by decide)).2⟩

end Buffer

end OperatorShell.Edit
