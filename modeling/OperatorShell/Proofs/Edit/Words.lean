import Mathlib.Data.List.TakeWhile
import Mathlib.Order.Bounds.Defs
import OperatorShell.Proofs.Edit.Positions

/-!
# Word boundaries

Where the word motions go, said by positions.  To the left it is the nearest position before the
cursor at which a word starts, to the right the nearest one behind it at which a word ends, and the
start or the end of the text if there is none.  The word deletions remove what the motions cross.
So a word motion that is repeated comes closer to the start or the end of the text each time, until
it is there.

Going left over a text is going right over the text read backwards, so the nearest boundary is
found once, from the start of a text to the right, and carried over to both sides of the cursor.
-/

namespace OperatorShell.Edit

open Text

section Boundaries

/-- A character of the kind stands at the position. -/
def KindAt (text : List Char) (kind : Char → Bool) (position : Nat) : Prop :=
  text[position]?.any kind = true
  deriving Decidable

/-- A word starts at the position, which is the start of the text or follows white space. -/
def WordStartsAt (text : List Char) (position : Nat) : Prop :=
  KindAt text (!isBlank ·) position ∧ (position = 0 ∨ KindAt text isBlank (position - 1))
  deriving Decidable

/-- A word ends before the position, which is the end of the text or holds white space. -/
def WordEndsAt (text : List Char) (position : Nat) : Prop :=
  0 < position ∧ KindAt text (!isBlank ·) (position - 1) ∧
    (position = text.length ∨ KindAt text isBlank position)
  deriving Decidable

/-- The last start of a word before a position, or the start of the text if no word starts there. -/
def NearestStart (text : List Char) (position start : Nat) : Prop :=
  IsGreatest {index | index < position ∧ WordStartsAt text index} start ∨
    (∀ index, index < position → ¬WordStartsAt text index) ∧ start = 0

/-- The first end of a word behind a position, or the end of the text if no word ends there. -/
def NearestEnd (text : List Char) (position stop : Nat) : Prop :=
  IsLeast {index | position < index ∧ WordEndsAt text index} stop ∨
    (∀ index, position < index → ¬WordEndsAt text index) ∧ stop = text.length

variable {text : List Char} {kind : Char → Bool} {position start stop count : Nat}

theorem KindAt.lt_length (shown : KindAt text kind position) : position < text.length := by
  obtain ⟨character, found, _⟩ := (Option.any_eq_true ..).mp shown
  exact (List.getElem?_eq_some_iff.mp found).1

/-- No character is of a kind and not of it. -/
theorem KindAt.not_negated (shown : KindAt text kind position) :
    ¬KindAt text (!kind ·) position := by
  obtain ⟨character, found, ofKind⟩ := (Option.any_eq_true ..).mp shown
  simp [KindAt, found, ofKind]

theorem kindAt_cons_succ (character : Char) :
    KindAt (character :: text) kind (position + 1) ↔ KindAt text kind position := Iff.rfl

theorem kindAt_drop :
    KindAt (text.drop count) kind position ↔ KindAt text kind (count + position) := by
  rw [KindAt, List.getElem?_drop, KindAt]

/-- Reading backwards from a count of characters, the first one read is the last of them. -/
theorem kindAt_reverse_take (inText : count ≤ text.length) (inside : position < count) :
    KindAt (text.take count).reverse kind position ↔ KindAt text kind (count - 1 - position) := by
  have length : (text.take count).length = count := List.length_take_of_le inText
  have mirrored : count - 1 - position < count := by omega
  rw [KindAt, List.getElem?_reverse (by rwa [length]), length, List.getElem?_take_of_lt mirrored,
    KindAt]

/-- From the one position to the other all characters are of a kind, and there the text ends or goes
on with a character that is not. -/
structure Stretch (text : List Char) (kind : Char → Bool) (start stop : Nat) : Prop where
  start_le : start ≤ stop
  shown : ∀ position, start ≤ position → position < stop → KindAt text kind position
  ends : stop = text.length ∨ KindAt text (!kind ·) stop

theorem Stretch.start_lt (stretch : Stretch text kind start stop)
    (shown : KindAt text kind start) : start < stop := by
  refine Nat.lt_of_le_of_ne stretch.start_le fun empty => ?_
  rcases stretch.ends with atEnd | other
  · exact shown.lt_length.ne (empty.trans atEnd)
  · exact shown.not_negated (empty ▸ other)

theorem Stretch.behind (inText : count ≤ text.length)
    (stretch : Stretch (text.drop count) kind 0 stop) :
    Stretch text kind count (count + stop) where
  start_le := Nat.le_add_right ..
  shown position later inside := by
    have shown := stretch.shown (position - count) (Nat.zero_le _) (by omega)
    rwa [kindAt_drop, Nat.add_sub_cancel' later] at shown
  ends := by
    have ends := stretch.ends
    rw [kindAt_drop, List.length_drop] at ends
    exact ends.imp_left fun atEnd => by omega

theorem stretch_takeWhile (text : List Char) (kind : Char → Bool) :
    Stretch text kind 0 (text.takeWhile kind).length where
  start_le := Nat.zero_le _
  shown position _ inside := by
    have found := List.prefix_iff_getElem?.mp (text.takeWhile_prefix kind) position inside
    rw [KindAt, found, Option.any_some]
    exact List.mem_takeWhile_imp (List.getElem_mem inside)
  ends := by
    induction text with
    | nil => exact .inl rfl
    | cons first rest ih =>
        cases ofKind : kind first with
        | true =>
            rw [List.takeWhile_cons_of_pos ofKind, List.length_cons, List.length_cons,
              kindAt_cons_succ, Nat.add_right_cancel_iff]
            exact ih
        | false =>
            rw [List.takeWhile_cons_of_neg (by simp [ofKind])]
            exact .inr (by simp [KindAt, ofKind])

/-- White space from the start of the text up to one position, and a word from there to the other.
Without a word both positions are the end of the text. -/
structure FirstWord (text : List Char) (start stop : Nat) : Prop where
  blanks : Stretch text isBlank 0 start
  word : Stretch text (!isBlank ·) start stop

theorem firstWord (text : List Char) :
    FirstWord text (text.takeWhile isBlank).length (firstWordLength text) where
  blanks := stretch_takeWhile text isBlank
  word := by
    have inText : (text.takeWhile isBlank).length ≤ text.length :=
      (text.takeWhile_sublist isBlank).length_le
    rw [firstWordLength, ← drop_length_takeWhile]
    exact (stretch_takeWhile _ _).behind inText

section FirstWord

variable (first : FirstWord text start stop)

include first

theorem FirstWord.not_wordEndsAt_of_le (early : position ≤ start) : ¬WordEndsAt text position := by
  rintro ⟨behind, visible, -⟩
  have blank := first.blanks.shown (position - 1) (Nat.zero_le _) (by omega)
  exact blank.not_negated visible

theorem FirstWord.not_wordEndsAt_of_lt (inside : position < stop) : ¬WordEndsAt text position := by
  rcases Nat.lt_or_ge start position with late | early
  · have visible := first.word.shown position late.le inside
    rintro ⟨-, -, atEnd | blank⟩
    · exact visible.lt_length.ne atEnd
    · exact blank.not_negated visible
  · exact first.not_wordEndsAt_of_le early

theorem FirstWord.wordEndsAt (visible : KindAt text (!isBlank ·) start) : WordEndsAt text stop := by
  have nonempty := first.word.start_lt visible
  have ends := first.word.ends
  simp only [Bool.not_not] at ends
  exact ⟨by omega, first.word.shown (stop - 1) (by omega) (by omega), ends⟩

/-- From the start of a text the nearest end of a word is the end of the first word. -/
theorem FirstWord.nearestEnd : NearestEnd text 0 stop := by
  rcases first.blanks.ends with atEnd | visible
  · have stop_eq : stop = text.length := by
      refine first.word.ends.resolve_right fun shown => ?_
      exact absurd shown.lt_length (Nat.not_lt_of_le (atEnd ▸ first.word.start_le))
    refine .inr ⟨fun index _ ends => ?_, stop_eq⟩
    have inText := ends.2.1.lt_length
    exact first.not_wordEndsAt_of_le (by omega) ends
  · have ends := first.wordEndsAt visible
    refine .inl ⟨⟨ends.1, ends⟩, ?_⟩
    rintro index ⟨-, endsThere⟩
    exact Nat.le_of_not_lt fun inside => first.not_wordEndsAt_of_lt inside endsThere

end FirstWord

theorem wordEndsAt_drop (inText : count ≤ text.length) (behind : 0 < position) :
    WordEndsAt (text.drop count) position ↔ WordEndsAt text (count + position) := by
  have atEnd : position = text.length - count ↔ count + position = text.length := by omega
  have started : 0 < count + position := Nat.add_pos_right count behind
  rw [WordEndsAt, WordEndsAt, kindAt_drop, kindAt_drop, List.length_drop, atEnd,
    Nat.add_sub_assoc behind]
  exact and_congr_left' (iff_of_true behind started)

/-- Read backwards, a text has the starts of its words as their ends. -/
theorem wordEndsAt_reverse_take (inText : count ≤ text.length) (inside : position < count) :
    WordEndsAt (text.take count).reverse (count - position) ↔ WordStartsAt text position := by
  have length : (text.take count).reverse.length = count := by
    rw [List.length_reverse, List.length_take_of_le inText]
  have behind : 0 < count - position := Nat.sub_pos_of_lt inside
  have first : count - 1 - (count - position - 1) = position := by omega
  rw [WordEndsAt, WordStartsAt, length, kindAt_reverse_take inText (by omega), first,
    and_iff_right behind]
  refine and_congr_right' ?_
  rcases Nat.eq_zero_or_pos position with rfl | preceded
  · exact iff_of_true (.inl rfl) (.inl rfl)
  · have previous : count - 1 - (count - position) = position - 1 := by omega
    rw [kindAt_reverse_take inText (by omega), previous]
    exact or_congr (by omega) Iff.rfl

/-- What is nearest in the text behind a position is nearest to the position. -/
theorem NearestEnd.behind (inText : count ≤ text.length)
    (nearest : NearestEnd (text.drop count) 0 stop) : NearestEnd text count (count + stop) := by
  have ended {index : Nat} (later : count < index) :
      WordEndsAt text index ↔ WordEndsAt (text.drop count) (index - count) := by
    rw [wordEndsAt_drop inText (by omega), Nat.add_sub_cancel' later.le]
  rcases nearest with ⟨⟨later, ends⟩, least⟩ | ⟨noEnd, atEnd⟩
  · refine .inl ⟨⟨by omega, (wordEndsAt_drop inText later).mp ends⟩, ?_⟩
    rintro index ⟨beyond, endsThere⟩
    have bound := least ⟨Nat.sub_pos_of_lt beyond, (ended beyond).mp endsThere⟩
    omega
  · refine .inr ⟨fun index beyond endsThere => ?_, ?_⟩
    · exact noEnd (index - count) (Nat.sub_pos_of_lt beyond) ((ended beyond).mp endsThere)
    · rw [atEnd, List.length_drop, Nat.add_sub_cancel' inText]

/-- What is nearest in the text before a position, read backwards, is nearest to the position. -/
theorem NearestEnd.before (inText : count ≤ text.length)
    (nearest : NearestEnd (text.take count).reverse 0 stop) :
    NearestStart text count (count - stop) := by
  have length : (text.take count).reverse.length = count := by
    rw [List.length_reverse, List.length_take_of_le inText]
  rcases nearest with ⟨⟨later, ends⟩, least⟩ | ⟨noEnd, atEnd⟩
  · have stop_le : stop ≤ count := by
      have inside := ends.2.1.lt_length
      omega
    have starts : WordStartsAt text (count - stop) := by
      rwa [← wordEndsAt_reverse_take inText (by omega), Nat.sub_sub_self stop_le]
    refine .inl ⟨⟨by omega, starts⟩, ?_⟩
    rintro index ⟨earlier, startsThere⟩
    have bound := least ⟨Nat.sub_pos_of_lt earlier,
      (wordEndsAt_reverse_take inText earlier).mpr startsThere⟩
    omega
  · refine .inr ⟨fun index earlier startsThere => ?_, by omega⟩
    exact noEnd (count - index) (Nat.sub_pos_of_lt earlier)
      ((wordEndsAt_reverse_take inText earlier).mpr startsThere)

/-- Unless the position is the start of the text, the nearest start is before it. -/
theorem NearestStart.le (nearest : NearestStart text position start) : start ≤ position - 1 := by
  rcases nearest with ⟨⟨earlier, _⟩, _⟩ | ⟨_, atStart⟩
  · exact Nat.le_sub_one_of_lt earlier
  · exact atStart ▸ Nat.zero_le _

/-- Unless the position is the end of the text, the nearest end is behind it. -/
theorem NearestEnd.le (nearest : NearestEnd text position stop) :
    text.length - stop ≤ text.length - position - 1 := by
  rcases nearest with ⟨⟨later, _⟩, _⟩ | ⟨_, atEnd⟩
  · omega
  · omega

end Boundaries

namespace Buffer

variable {buffer : Buffer}

/-- The characters between two positions are gone, nothing else has changed, and the cursor stands
between what is kept in front of them and what is kept behind them. -/
def Removes (buffer : Buffer) (start stop : Nat) (later : Buffer) : Prop :=
  ∃ kept removed behind, buffer.text = kept ++ removed ++ behind ∧
    kept.length = start ∧ (kept ++ removed).length = stop ∧
    later = { buffer with text := kept ++ behind, cursor := kept.length }

/-- Joining what is before the one position to what is behind the other removes what is between. -/
theorem removes_of_le {start stop : Nat} (ordered : start ≤ stop) (inText : stop ≤ buffer.length) :
    buffer.Removes start stop
      { buffer with text := buffer.text.take start ++ buffer.text.drop stop, cursor := start } := by
  have startLength : (buffer.text.take start).length = start :=
    List.length_take_of_le (Nat.le_trans ordered inText)
  have upToStop : buffer.text.take start ++ (buffer.text.take stop).drop start =
      buffer.text.take stop := by
    have cut := List.take_append_drop start (buffer.text.take stop)
    rwa [List.take_take, Nat.min_eq_left ordered] at cut
  refine ⟨buffer.text.take start, (buffer.text.take stop).drop start, buffer.text.drop stop,
    ?_, startLength, ?_, ?_⟩
  · rw [upToStop, List.take_append_drop]
  · rw [upToStop]
    exact List.length_take_of_le inText
  · rw [startLength]

section Active

variable (active : buffer.status = .active)

include active

theorem moveWordLeft_of_active :
    buffer.moveWordLeft = { buffer with cursor := buffer.wordStart } := by
  rw [moveWordLeft, edit, active]

theorem moveWordRight_of_active :
    buffer.moveWordRight = { buffer with cursor := buffer.wordEnd } := by
  rw [moveWordRight, edit, active]

theorem deleteWordLeft_of_active :
    buffer.deleteWordLeft =
      { buffer with
        text := buffer.text.take buffer.wordStart ++ buffer.text.drop buffer.cursor
        cursor := buffer.wordStart } := by
  rw [deleteWordLeft, edit, active]
  rfl

theorem deleteWordRight_of_active :
    buffer.deleteWordRight =
      { buffer with
        text := buffer.text.take buffer.cursor ++ buffer.text.drop buffer.wordEnd
        cursor := buffer.cursor } := by
  rw [deleteWordRight, edit, active]
  rfl

end Active

namespace WellFormed

theorem nearestStart_wordStart (wellFormed : buffer.WellFormed) :
    NearestStart buffer.text buffer.cursor buffer.wordStart := by
  have nearest := (firstWord buffer.before.reverse).nearestEnd.before wellFormed.cursor_le
  rwa [wordStart, wellFormed.length_before]

theorem nearestEnd_wordEnd (wellFormed : buffer.WellFormed) :
    NearestEnd buffer.text buffer.cursor buffer.wordEnd :=
  (firstWord buffer.after).nearestEnd.behind wellFormed.cursor_le

/-- What is before the cursor gets shorter, unless there is nothing. -/
theorem cursor_moveWordLeft_le (wellFormed : buffer.WellFormed) (active : buffer.status = .active) :
    buffer.moveWordLeft.cursor ≤ buffer.cursor - 1 := by
  rw [moveWordLeft_of_active active]
  exact wellFormed.nearestStart_wordStart.le

/-- What is after the cursor gets shorter, unless there is nothing. -/
theorem length_sub_cursor_moveWordRight_le (wellFormed : buffer.WellFormed)
    (active : buffer.status = .active) :
    buffer.moveWordRight.length - buffer.moveWordRight.cursor ≤
      buffer.length - buffer.cursor - 1 := by
  rw [moveWordRight_of_active active]
  exact wellFormed.nearestEnd_wordEnd.le

end WellFormed

section Repetition

/-- A call that leaves the text and the status alone and makes a distance shorter leaves the text
alone however often it is repeated, and makes the distance shorter each time. -/
theorem WellFormed.run_replicate (call : Call) (distance : Buffer → Nat)
    (keeps : ∀ buffer,
      (call.apply buffer).text = buffer.text ∧ (call.apply buffer).status = buffer.status)
    (shortens : ∀ {buffer : Buffer}, buffer.WellFormed → buffer.status = .active →
      distance (call.apply buffer) ≤ distance buffer - 1)
    (wellFormed : buffer.WellFormed) (active : buffer.status = .active) (count : Nat) :
    let there := buffer.run (.replicate count call)
    there.text = buffer.text ∧ there.status = .active ∧
      distance there ≤ distance buffer - count := by
  induction count generalizing buffer with
  | zero => exact ⟨rfl, active, Nat.le_refl _⟩
  | succ count ih =>
      obtain ⟨text_apply, status_apply⟩ := keeps buffer
      obtain ⟨sameText, stillActive, closer⟩ :=
        ih (wellFormed.apply call) (status_apply.trans active)
      refine ⟨sameText.trans text_apply, stillActive, ?_⟩
      calc distance (buffer.run (.replicate (count + 1) call))
        _ ≤ distance (call.apply buffer) - count := closer
        _ ≤ distance buffer - 1 - count := Nat.sub_le_sub_right (shortens wellFormed active) count
        _ = distance buffer - (count + 1) := by rw [Nat.sub_sub, Nat.add_comm]

/-- A change of place leaves the text and the status alone. -/
theorem edit_cursor_keeps (place : Buffer → Nat) (buffer : Buffer) :
    let moved := buffer.edit fun buffer => { buffer with cursor := place buffer }
    moved.text = buffer.text ∧ moved.status = buffer.status := by
  constructor
  · apply edit_keeps text
    exact fun _ => rfl
  · apply edit_keeps status
    exact fun _ => rfl

/-- Going left word by word comes closer to the start of the text each time, until it is there. -/
theorem WellFormed.run_moveWordLeft (wellFormed : buffer.WellFormed)
    (active : buffer.status = .active) (count : Nat) :
    let there := buffer.run (.replicate count .moveWordLeft)
    there.text = buffer.text ∧
      (0 < there.cursor → there.moveWordLeft.cursor < there.cursor) ∧
      (buffer.cursor ≤ count → there.cursor = 0) := by
  intro there
  obtain ⟨sameText, stillActive, closer⟩ : there.text = buffer.text ∧ there.status = .active ∧
      there.cursor ≤ buffer.cursor - count :=
    wellFormed.run_replicate .moveWordLeft cursor (edit_cursor_keeps wordStart)
      cursor_moveWordLeft_le active count
  have thereWellFormed := wellFormed.run (.replicate count .moveWordLeft)
  have further := thereWellFormed.cursor_moveWordLeft_le stillActive
  refine ⟨sameText, fun behind => ?_, fun enough => ?_⟩
  · exact Nat.lt_of_le_of_lt further (Nat.sub_one_lt_of_lt behind)
  · rwa [Nat.sub_eq_zero_of_le enough, Nat.le_zero] at closer

/-- Going right word by word comes closer to the end of the text each time, until it is there. -/
theorem WellFormed.run_moveWordRight (wellFormed : buffer.WellFormed)
    (active : buffer.status = .active) (count : Nat) :
    let there := buffer.run (.replicate count .moveWordRight)
    there.text = buffer.text ∧
      (there.cursor < buffer.length → there.cursor < there.moveWordRight.cursor) ∧
      (buffer.length - buffer.cursor ≤ count → there.cursor = buffer.length) := by
  intro there
  obtain ⟨sameText, stillActive, closer⟩ : there.text = buffer.text ∧ there.status = .active ∧
      there.length - there.cursor ≤ buffer.length - buffer.cursor - count :=
    wellFormed.run_replicate .moveWordRight (fun buffer => buffer.length - buffer.cursor)
      (edit_cursor_keeps wordEnd) length_sub_cursor_moveWordRight_le active count
  have thereWellFormed := wellFormed.run (.replicate count .moveWordRight)
  have inText : there.cursor ≤ there.length := thereWellFormed.cursor_le
  have further : there.moveWordRight.length - there.moveWordRight.cursor ≤
      there.length - there.cursor - 1 :=
    thereWellFormed.length_sub_cursor_moveWordRight_le stillActive
  have sameLength : there.length = buffer.length := congrArg List.length sameText
  have movedLength : there.moveWordRight.length = there.length :=
    congrArg List.length (edit_cursor_keeps wordEnd there).1
  exact ⟨sameText, by omega, by omega⟩

end Repetition

/-- The word motions of an active buffer go to the nearest start of a word before the cursor and to
the nearest end of a word behind it, the word deletions remove what the motions cross and nothing
else, and a word motion that is repeated goes on, over an unchanged text, until it has come to the
start or the end of the text. -/
theorem word_motions_go_to_nearest (wellFormed : buffer.WellFormed)
    (active : buffer.status = .active) :
    (∃ start, NearestStart buffer.text buffer.cursor start ∧
      buffer.moveWordLeft = { buffer with cursor := start } ∧
      buffer.Removes start buffer.cursor buffer.deleteWordLeft) ∧
    (∃ stop, NearestEnd buffer.text buffer.cursor stop ∧
      buffer.moveWordRight = { buffer with cursor := stop } ∧
      buffer.Removes buffer.cursor stop buffer.deleteWordRight) ∧
    (∀ count, let there := buffer.run (.replicate count .moveWordLeft)
      there.text = buffer.text ∧
        (0 < there.cursor → there.moveWordLeft.cursor < there.cursor) ∧
        (buffer.cursor ≤ count → there.cursor = 0)) ∧
    (∀ count, let there := buffer.run (.replicate count .moveWordRight)
      there.text = buffer.text ∧
        (there.cursor < buffer.length → there.cursor < there.moveWordRight.cursor) ∧
        (buffer.length - buffer.cursor ≤ count → there.cursor = buffer.length)) := by
  refine ⟨⟨buffer.wordStart, wellFormed.nearestStart_wordStart, moveWordLeft_of_active active, ?_⟩,
    ⟨buffer.wordEnd, wellFormed.nearestEnd_wordEnd, moveWordRight_of_active active, ?_⟩,
    wellFormed.run_moveWordLeft active, wellFormed.run_moveWordRight active⟩
  · rw [deleteWordLeft_of_active active]
    exact removes_of_le wellFormed.wordStart_le wellFormed.cursor_le
  · rw [deleteWordRight_of_active active]
    exact removes_of_le (Nat.le_add_right ..) wellFormed.wordEnd_le

/-- The cursor stands in the white space between two words, a space and a no-break space. -/
theorem word_motions_between_words :
    let buffer : Buffer :=
      ⟨['g', 'o', ' ', 's', 'e', 't', ' ', '\u00a0', 'u', 'p', ' '], 7, .active, none⟩
    NearestStart buffer.text 7 3 ∧ buffer.moveWordLeft = { buffer with cursor := 3 } ∧
      buffer.Removes 3 7 ⟨['g', 'o', ' ', '\u00a0', 'u', 'p', ' '], 3, .active, none⟩ ∧
      NearestEnd buffer.text 7 10 ∧ buffer.moveWordRight = { buffer with cursor := 10 } ∧
      buffer.Removes 7 10 ⟨['g', 'o', ' ', 's', 'e', 't', ' ', ' '], 7, .active, none⟩ ∧
      (buffer.run (.replicate 7 .moveWordLeft)).cursor = 0 ∧
      (buffer.run (.replicate 4 .moveWordRight)).cursor = 11 := by
  intro buffer
  have wellFormed : buffer.WellFormed := ⟨by decide, nofun, nofun⟩
  obtain ⟨⟨start, nearestStart, movedLeft, removedLeft⟩,
    ⟨stop, nearestEnd, movedRight, removedRight⟩, leftwards, rightwards⟩ :=
    word_motions_go_to_nearest wellFormed rfl
  have start_eq : start = 3 := (congrArg cursor movedLeft).symm.trans (by decide)
  have stop_eq : stop = 10 := (congrArg cursor movedRight).symm.trans (by decide)
  have deletedLeft : buffer.deleteWordLeft =
      ⟨['g', 'o', ' ', '\u00a0', 'u', 'p', ' '], 3, .active, none⟩ := by decide
  have deletedRight : buffer.deleteWordRight =
      ⟨['g', 'o', ' ', 's', 'e', 't', ' ', ' '], 7, .active, none⟩ := by decide
  subst start_eq stop_eq
  rw [deletedLeft] at removedLeft
  rw [deletedRight] at removedRight
  exact ⟨nearestStart, movedLeft, removedLeft, nearestEnd, movedRight, removedRight,
    (leftwards 7).2.2 (by decide), (rightwards 4).2.2 (by decide)⟩

end Buffer

end OperatorShell.Edit
