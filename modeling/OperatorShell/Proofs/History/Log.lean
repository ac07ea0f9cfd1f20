import Mathlib.Data.List.Destutter
import OperatorShell.Proofs.History.Saving

/-!
# The history as a log

A history compares a line with its newest entry only, and it forgets the oldest entry when there are
too many.  Still its entries are the newest part of the log of all lines, from which the blank ones
are dropped and in which the same line twice in a row counts once.  The index of the entry that is
shown belongs to an entry, and it is the one that was shown last.
-/

namespace OperatorShell.History

open Text

/-- A call on a history. -/
inductive Call where
  | push (line : String)
  | previous
  | next
  | resetScroll
  deriving DecidableEq, Repr

/-- The history after a call. -/
def after (history : History) : Call → History
  | .push line => history.push line
  | .previous => history.previous.2
  | .next => history.next.2
  | .resetScroll => history.resetScroll

/-- What a call shows if it goes through the entries: one of them, or the fresh line. -/
def shown? (history : History) : Call → Option (Option String)
  | .previous => some history.previous.1
  | .next => some history.next.1
  | .push _ | .resetScroll => none

/-- The history after calls. -/
def run (history : History) (calls : List Call) : History := calls.foldl after history

/-- What calls show, one after the other. -/
def shown (history : History) : List Call → List (Option String)
  | [] => []
  | call :: rest => (history.shown? call).toList ++ (history.after call).shown rest

/-- The line that a call hands in. -/
def Call.line? : Call → Option String
  | .push line => some line
  | .previous | .next | .resetScroll => none

/-- All lines that calls hand in, newest first. -/
def handedIn (calls : List Call) : List String := (calls.filterMap Call.line?).reverse

/-- The log of lines: blank ones are dropped, and equal neighbours count once. -/
def log (lines : List String) : List String :=
  (lines.filter fun line => !isBlankText line.toList).destutter (· ≠ ·)

/-- The entries have gained the line at their front, as far as the capacity goes. -/
def Gained (capacity : Nat) (line : String) (before after : List String) : Prop :=
  after = (line :: before).take capacity ∧ after ≠ before

section Sequences

theorem run_concat (history : History) (calls : List Call) (call : Call) :
    history.run (calls ++ [call]) = (history.run calls).after call :=
  List.foldl_concat ..

theorem shown_concat (history : History) (calls : List Call) (call : Call) :
    history.shown (calls ++ [call]) =
      history.shown calls ++ ((history.run calls).shown? call).toList := by
  induction calls generalizing history with
  | nil => simp [shown, run]
  | cons first rest ih =>
      rw [List.cons_append, shown, shown, ih, List.append_assoc]
      rfl

theorem getLast?_shown_concat (history : History) (calls : List Call) (call : Call) :
    (history.shown (calls ++ [call])).getLast? =
      ((history.run calls).shown? call).or (history.shown calls).getLast? := by
  rw [shown_concat]
  cases (history.run calls).shown? call <;> simp

theorem handedIn_concat (calls : List Call) (call : Call) :
    handedIn (calls ++ [call]) = call.line?.toList ++ handedIn calls := by
  cases call <;> simp [handedIn, Call.line?]

end Sequences

section Log

theorem destutter_ne_cons (line : String) (lines : List String) :
    (line :: lines).destutter (· ≠ ·) =
      if lines.head? = some line then lines.destutter (· ≠ ·)
      else line :: lines.destutter (· ≠ ·) := by
  cases lines with
  | nil => rfl
  | cons next rest =>
      rw [List.destutter_cons_cons, List.destutter_cons']
      by_cases same : line = next
      · subst same
        simp
      · simp [same, Ne.symm same]

/-- The newest line of the log is the newest one that is not blank. -/
theorem head?_destutter_ne (lines : List String) :
    (lines.destutter (· ≠ ·)).head? = lines.head? := by
  induction lines with
  | nil => rfl
  | cons line rest ih =>
      rw [destutter_ne_cons]
      split
      · rename_i repeated
        rw [ih, repeated]
        rfl
      · rfl

/-- A line goes into the log unless it is blank or repeats the newest line in it. -/
theorem log_cons (line : String) (lines : List String) :
    log (line :: lines) =
      if isBlankText line.toList = true ∨ (log lines).head? = some line then log lines
      else line :: log lines := by
  unfold log
  rw [head?_destutter_ne, List.filter_cons]
  cases blank : isBlankText line.toList with
  | true => simp
  | false => simp [destutter_ne_cons]

end Log

section Following

variable {capacity : Nat} {lines : List String} {history : History}

/-- The history keeps the newest part of the log. -/
structure Follows (capacity : Nat) (lines : List String) (history : History) : Prop where
  spacious : 0 < capacity
  limit_eq : history.limit = capacity
  entries_eq : history.entries = (log lines).take capacity

theorem follows_inMemory (limit : Nat) : Follows (max limit 1) [] (inMemory limit) where
  spacious := Nat.lt_of_lt_of_le Nat.one_pos (Nat.le_max_right limit 1)
  limit_eq := rfl
  entries_eq := List.take_nil.symm

/-- The newest entry is the newest line of the log, however small the capacity is. -/
theorem Follows.head?_entries (follows : Follows capacity lines history) :
    history.entries.head? = (log lines).head? := by
  rw [follows.entries_eq, List.head?_take, if_neg (Nat.ne_of_gt follows.spacious)]

theorem accepts_iff {line : String} :
    history.accepts line = true ↔
      ¬(isBlankText line.toList = true ∨ history.entries.head? = some line) := by
  simp [accepts]

theorem Follows.push (follows : Follows capacity lines history) (line : String) :
    Follows capacity (line :: lines) (history.push line) := by
  refine ⟨follows.spacious, (history.limit_push line).trans follows.limit_eq, ?_⟩
  rw [log_cons, ← follows.head?_entries]
  cases accepted : history.accepts line with
  | false =>
      have refused := mt accepts_iff.mpr (Bool.eq_false_iff.mp accepted)
      rw [entries_push_of_not_accepts history line accepted, if_pos (not_not.mp refused),
        follows.entries_eq]
  | true =>
      rw [entries_push_of_accepts history line accepted, if_neg (accepts_iff.mp accepted),
        follows.limit_eq, follows.entries_eq]
      -- The entry that the line pushes out is the last one that the capacity has room for.
      obtain ⟨room, rfl⟩ := Nat.exists_eq_add_one_of_ne_zero (Nat.ne_of_gt follows.spacious)
      simp [List.take_take]

@[simp] theorem limit_previous : history.previous.2.limit = history.limit := by
  unfold previous
  split <;> rfl

@[simp] theorem entries_previous : history.previous.2.entries = history.entries := by
  unfold previous
  split <;> rfl

theorem Follows.after (follows : Follows capacity lines history) (call : Call) :
    Follows capacity (call.line?.toList ++ lines) (history.after call) := by
  cases call with
  | push line => exact follows.push line
  | previous =>
      exact ⟨follows.spacious, limit_previous.trans follows.limit_eq,
        entries_previous.trans follows.entries_eq⟩
  | next | resetScroll => exact ⟨follows.spacious, follows.limit_eq, follows.entries_eq⟩

/-- Whatever the calls are, the history follows the lines that they hand in. -/
theorem follows_run (limit : Nat) (calls : List Call) :
    Follows (max limit 1) (handedIn calls) ((inMemory limit).run calls) := by
  induction calls using List.reverseRecOn with
  | nil => exact follows_inMemory limit
  | append_singleton calls call ih =>
      rw [handedIn_concat, run_concat]
      exact ih.after call

end Following

section Scrolling

variable {history : History} {last : Option (Option String)}

/-- The index that is kept is the one of an entry, and this entry was shown last. -/
def ShowsLast (last : Option (Option String)) (history : History) : Prop :=
  ∀ index, history.scroll = some index →
    index < history.entries.length ∧ last = some history.entries[index]?

theorem older_lt {count index : Nat} {scroll : Option Nat} (nonempty : count ≠ 0)
    (moved : older scroll count = some index) : index < count := by
  unfold older at moved
  rw [if_neg nonempty] at moved
  cases scroll with
  | none =>
      obtain rfl := Option.some.inj moved
      exact Nat.pos_of_ne_zero nonempty
  | some index =>
      obtain rfl := Option.some.inj moved
      omega

/-- What a move has shown is the entry at the index that it has come to. -/
theorem current?_of_scroll {index : Nat} (kept : history.scroll = some index) :
    history.current? = history.entries[index]? := by
  rw [current?, kept]
  rfl

theorem ShowsLast.previous (shows_last : ShowsLast last history) :
    ShowsLast (some history.previous.1) history.previous.2 := by
  unfold History.previous
  split
  · rename_i empty
    intro index kept
    have inRange := (shows_last index kept).1
    simp_all
  · rename_i nonempty
    intro index kept
    have inRange := older_lt (by simpa using nonempty) kept
    exact ⟨inRange, congrArg some (current?_of_scroll kept)⟩

theorem ShowsLast.next (shows_last : ShowsLast last history) :
    ShowsLast (some history.next.1) history.next.2 := by
  intro index kept
  have left : history.scroll = some (index + 1) := by
    change newer history.scroll = some index at kept
    unfold newer at kept
    split at kept
    · rename_i here
      rw [here, Option.some.inj kept]
    · cases kept
  have inRange := (shows_last (index + 1) left).1
  exact ⟨Nat.lt_of_succ_lt inRange, congrArg some (current?_of_scroll kept)⟩

@[simp] theorem scroll_push (history : History) (line : String) :
    (history.push line).scroll = none := by
  unfold push
  split <;> rfl

theorem ShowsLast.after (shows_last : ShowsLast last history) (call : Call) :
    ShowsLast ((history.shown? call).or last) (history.after call) := by
  cases call with
  | push line =>
      intro index kept
      rw [History.after, scroll_push] at kept
      cases kept
  | resetScroll => nofun
  | previous => exact shows_last.previous
  | next => exact shows_last.next

theorem showsLast_run (limit : Nat) (calls : List Call) :
    ShowsLast ((inMemory limit).shown calls).getLast? ((inMemory limit).run calls) := by
  induction calls using List.reverseRecOn with
  | nil => nofun
  | append_singleton calls call ih =>
      rw [getLast?_shown_concat, run_concat]
      exact ih.after call

end Scrolling

/-- An accepted line is new at the front, and a refused one leaves the entries as they are. -/
theorem Follows.accepts_iff_gained {capacity : Nat} {lines : List String} {history : History}
    (follows : Follows capacity lines history) (line : String) :
    history.accepts line = true ↔
      Gained capacity line history.entries (history.push line).entries := by
  constructor
  · intro accepted
    obtain ⟨proper, different⟩ := not_or.mp (accepts_iff.mp accepted)
    have spacious : 0 < history.limit := follows.spacious.trans_eq follows.limit_eq.symm
    have newest := history.head?_push line spacious (Bool.eq_false_iff.mpr proper)
    constructor
    · rw [entries_push_of_accepts history line accepted, follows.limit_eq]
    · intro same
      rw [same] at newest
      exact different newest
  · rintro ⟨-, changed⟩
    by_contra refused
    exact changed (entries_push_of_not_accepts history line (Bool.eq_false_iff.mpr refused))

/-- The entries are the newest part of the log of all lines that have been handed in, as long as the
limit allows.  A line is accepted when the entries gain it at their front.  Going through them ends
when a line is handed in, and until then the index is that of an entry, which was shown last. -/
theorem run_refines_log (limit : Nat) (calls : List Call) :
    let capacity := max limit 1
    let history := (inMemory limit).run calls
    history.entries = (log (handedIn calls)).take capacity ∧
    (∀ line, history.accepts line = true ↔
      Gained capacity line history.entries (history.push line).entries) ∧
    (∀ line, (history.push line).scroll = none) ∧
    ∀ index, history.scroll = some index →
      index < history.entries.length ∧
        ((inMemory limit).shown calls).getLast? = some history.entries[index]? := by
  intro capacity history
  have follows : Follows capacity (handedIn calls) history := follows_run limit calls
  exact ⟨follows.entries_eq, follows.accepts_iff_gained, history.scroll_push,
    showsLast_run limit calls⟩

example : ((inMemory 2).run [.push "a", .push "b", .push " ", .push "b", .push "a"]).entries =
    ["a", "b"] := by
  decide

end OperatorShell.History
