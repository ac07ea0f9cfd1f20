import OperatorShell.History
import OperatorShell.Proofs.Json.RoundTrip

/-!
# Saving the history

A submission that makes an entry writes the whole file, and the write may fail and leave
anything behind.  The line is recorded all the same, so the file keeps step with the entries
only as long as the last attempt to write it succeeded: a line that is submitted again after
a failure repeats the newest entry, and no further attempt is made.
-/

namespace OperatorShell

open Text

/-- How an attempt to write a file ends. -/
inductive Writing where
  | succeeds
  /-- It fails, and this is at the path afterwards. -/
  | fails (left : Disk)
  deriving DecidableEq, Repr

namespace Writing

def succeeded : Writing → Bool
  | .succeeds => true
  | .fails _ => false

/-- Write a file with the given end. -/
def write? : Writing → Disk → String → Option Disk
  | .succeeds, _, content => some (.file content)
  | .fails _, _, _ => none

/-- What is at the path after an attempt to write a text. -/
def outcome : Writing → String → Disk
  | .succeeds, content => .file content
  | .fails left, _ => left

/-- What is at the path after an attempt without success. -/
def leftover (writing : Writing) (disk : Disk) : Disk :=
  match writing with
  | .succeeds => disk
  | .fails left => left

end Writing

namespace Disk

/-- How writing ends at a place that nobody else changes. -/
def writing (disk : Disk) : Writing :=
  match disk with
  | .directory | .unreachable => .fails disk
  | _ => .succeeds

theorem write?_eq_writing (disk : Disk) : disk.write? = disk.writing.write? disk := by
  cases disk <;> rfl

end Disk

namespace History

section Push

variable (history : History) (line : String)

@[simp] theorem limit_push : (history.push line).limit = history.limit := by
  unfold push
  split <;> rfl

@[simp] theorem isFileBacked_push :
    (history.push line).isFileBacked = history.isFileBacked := by
  unfold push
  split <;> rfl

theorem entries_push_of_accepts (accepted : history.accepts line = true) :
    (history.push line).entries = (line :: history.entries).take history.limit := by
  rw [push, if_pos accepted]

theorem entries_push_of_not_accepts (refused : history.accepts line = false) :
    (history.push line).entries = history.entries := by
  simp [push, refused]

/-- A line that is not blank is the newest entry once it has been recorded, whether it made an
entry or repeated one. -/
theorem head?_push (spacious : 0 < history.limit)
    (proper : isBlankText line.toList = false) :
    (history.push line).entries.head? = some line := by
  cases accepted : history.accepts line with
  | true =>
      rw [entries_push_of_accepts history line accepted, List.head?_take,
        if_neg (Nat.ne_of_gt spacious)]
      rfl
  | false =>
      rw [entries_push_of_not_accepts history line accepted]
      simpa [accepts, proper] using accepted

end Push

/-- What the file holds is what was written into it. -/
@[simp] theorem readEntries_file (entries : List String) :
    readEntries (.file (Json.renderStrings entries)) = entries := by
  simp [readEntries, Disk.read?, Json.parse?_renderStrings, Json.strings?_array]

theorem limit_load_pos (disk : Disk) (limit : Nat) : 0 < (load disk limit).limit :=
  Nat.lt_of_lt_of_le Nat.one_pos (Nat.le_max_right limit 1)

/-- The newest entry that is loaded is the first one in the file. -/
theorem head?_entries_load (disk : Disk) (limit : Nat) :
    (load disk limit).entries.head? = (readEntries disk).head? := by
  have kept : max limit 1 ≠ 0 := Nat.ne_of_gt (limit_load_pos disk limit)
  simp [load, List.head?_take, kept]

end History

/-- The file holds an array of texts, and the first one is the given line. -/
def Disk.HasNewest (disk : Disk) (line : String) : Prop :=
  ∃ older, (disk.read?.bind Json.parse?).bind Json.strings? = some (line :: older)

theorem Disk.hasNewest_iff {disk : Disk} {line : String} :
    disk.HasNewest line ↔ (History.readEntries disk).head? = some line := by
  unfold HasNewest History.readEntries
  cases (disk.read?.bind Json.parse?).bind Json.strings? with
  | none => simp
  | some entries => simp [List.head?_eq_some_iff]

/-- A line that is submitted, and how an attempt to write the file ends at that time. -/
structure Submission where
  line : String
  writing : Writing
  deriving DecidableEq, Repr

/-- A history with what is at the path of its file. -/
structure Stored where
  history : History
  disk : Disk
  deriving DecidableEq, Repr

namespace Stored

/-- The history that is loaded from a file, with that file. -/
def load (disk : Disk) (limit : Nat) : Stored := ⟨.load disk limit, disk⟩

/-- Submit a line: whether that succeeds, and what is there afterwards. -/
def submit (stored : Stored) (submission : Submission) : Bool × Stored :=
  let (saved, history) := stored.history.submitWith submission.writing.write?
    submission.line stored.disk
  (saved.isSome, ⟨history, saved.getD (submission.writing.leftover stored.disk)⟩)

/-- Submit lines one after the other, whatever comes of them. -/
def submitAll (stored : Stored) (submissions : List Submission) : Stored :=
  submissions.foldl (fun stored submission => (stored.submit submission).2) stored

/-- What is at the path when the last attempt to write there, if there was one, ended in the given
way. -/
def diskAfter (start : Disk) (history : History) : Option Writing → Disk
  | none => start
  | some writing => writing.outcome (Json.renderStrings history.entries)

/-- The end of the last attempt to write the file. -/
def lastWriting (last : Option Writing) (history : History) :
    List Submission → Option Writing
  | [] => last
  | submission :: rest =>
      lastWriting (if history.accepts submission.line then some submission.writing else last)
        (history.push submission.line) rest

section Submit

variable (stored : Stored) (submission : Submission)

@[simp] theorem history_submit :
    (stored.submit submission).2.history = stored.history.push submission.line := by
  unfold submit History.submitWith
  dsimp only
  split <;> rfl

/-- A line that makes no entry is submitted without an attempt to write. -/
theorem submit_of_not_accepts (refused : stored.history.accepts submission.line = false) :
    stored.submit submission = (true, ⟨stored.history.push submission.line, stored.disk⟩) := by
  simp [submit, History.submitWith, refused]

/-- A line that makes an entry is submitted as well as the file can be written. -/
theorem submit_of_accepts (backed : stored.history.isFileBacked = true)
    (accepted : stored.history.accepts submission.line = true) :
    stored.submit submission =
      (submission.writing.succeeded,
        ⟨stored.history.push submission.line,
          diskAfter stored.disk (stored.history.push submission.line)
            (some submission.writing)⟩) := by
  obtain ⟨line, writing⟩ := submission
  cases writing <;>
    simp_all [submit, History.submitWith, History.persistWith?, Writing.write?,
      Writing.leftover, Writing.succeeded, Writing.outcome, diskAfter]

end Submit

/-- Whatever becomes of the file, every line is recorded. -/
theorem history_submitAll (stored : Stored) (submissions : List Submission) :
    (stored.submitAll submissions).history =
      (submissions.map Submission.line).foldl History.push stored.history := by
  induction submissions generalizing stored with
  | nil => rfl
  | cons submission rest ih =>
      rw [List.map_cons, List.foldl_cons, ← stored.history_submit submission]
      exact ih _

/-- What is known of a history after submissions, given what was at the path when it was loaded and
how the last attempt to write there ended. -/
structure Account (start : Disk) (stored : Stored) (last : Option Writing) : Prop where
  backed : stored.history.isFileBacked = true
  spacious : 0 < stored.history.limit
  disk_eq : stored.disk = diskAfter start stored.history last
  newest_eq : last = none →
    stored.history.entries.head? = (History.readEntries start).head?

theorem account_load (disk : Disk) (limit : Nat) : Account disk (load disk limit) none where
  backed := rfl
  spacious := History.limit_load_pos disk limit
  disk_eq := rfl
  newest_eq _ := History.head?_entries_load disk limit

section Account

variable {start : Disk} {stored : Stored} {last : Option Writing}

/-- One submission keeps the account. -/
theorem Account.submit (account : Account start stored last) (submission : Submission) :
    Account start (stored.submit submission).2
      (if stored.history.accepts submission.line then some submission.writing else last) := by
  cases accepted : stored.history.accepts submission.line with
  | true =>
      rw [submit_of_accepts stored submission account.backed accepted]
      constructor
      · simpa using account.backed
      · simpa using account.spacious
      · rfl
      · simp
  | false =>
      have same := stored.history.entries_push_of_not_accepts submission.line accepted
      rw [submit_of_not_accepts stored submission accepted, if_neg Bool.false_ne_true]
      constructor
      · simpa using account.backed
      · simpa using account.spacious
      · simpa only [diskAfter, same] using account.disk_eq
      · simpa only [same] using account.newest_eq

/-- Any number of submissions keeps the account. -/
theorem Account.submitAll (account : Account start stored last)
    (submissions : List Submission) :
    Account start (stored.submitAll submissions)
      (lastWriting last stored.history submissions) := by
  induction submissions generalizing stored last with
  | nil => exact account
  | cons submission rest ih =>
      have continued := ih (account.submit submission)
      rw [history_submit] at continued
      exact continued

/-- The newest entry is the first one in the file unless the last attempt to write the file
failed. -/
theorem Account.head?_readEntries (account : Account start stored last)
    (unfailed : ∀ left, last ≠ some (.fails left)) :
    (History.readEntries stored.disk).head? = stored.history.entries.head? := by
  rw [account.disk_eq]
  cases last with
  | none => exact (account.newest_eq rfl).symm
  | some writing =>
      cases writing with
      | succeeds => simp [diskAfter, Writing.outcome]
      | fails left => exact absurd rfl (unfailed left)

end Account

/-- A proper line that is submitted with success is the first one in the file, except that it may
repeat an entry that the last attempt to write the file has failed to save. -/
theorem submit_saved_iff (disk : Disk) (limit : Nat) (earlier : List Submission)
    (submission : Submission) (proper : isBlankText submission.line.toList = false)
    (answered : (((load disk limit).submitAll earlier).submit submission).1 = true) :
    (((load disk limit).submitAll earlier).submit submission).2.disk.HasNewest
        submission.line ↔
      ((load disk limit).submitAll earlier).history.accepts submission.line = true ∨
        ∀ left, lastWriting none (load disk limit).history earlier = some (.fails left) →
          left.HasNewest submission.line := by
  have account := (account_load disk limit).submitAll earlier
  generalize (load disk limit).submitAll earlier = stored at account answered ⊢
  generalize lastWriting none (load disk limit).history earlier = last at account ⊢
  have recorded := stored.history.head?_push submission.line account.spacious proper
  have after := account.submit submission
  cases accepted : stored.history.accepts submission.line with
  | true =>
      rw [submit_of_accepts stored submission account.backed accepted] at answered
      have saved : submission.writing = .succeeds := by
        cases writing : submission.writing with
        | succeeds => rfl
        | fails left => simp [writing, Writing.succeeded] at answered
      rw [accepted, if_pos rfl, saved] at after
      rw [Disk.hasNewest_iff, after.head?_readEntries (by simp), history_submit]
      simpa using recorded
  | false =>
      rw [accepted, if_neg Bool.false_ne_true] at after
      simp only [Bool.false_eq_true, false_or]
      match last with
      | some (.fails left) =>
          rw [after.disk_eq]
          simp [diskAfter, Writing.outcome]
      | none | some .succeeds =>
          rw [Disk.hasNewest_iff, after.head?_readEntries (by simp), history_submit]
          simpa using recorded

/-- After a first line that could not be saved a second one is, and stays the first in the file
when it is repeated. -/
theorem submit_saved_after_failure :
    isBlankText "b".toList = false ∧
      (((load .missing 80).submitAll [⟨"a", .fails .missing⟩, ⟨"b", .succeeds⟩]).submit
        ⟨"b", .fails .missing⟩).1 = true ∧
      (((load .missing 80).submitAll [⟨"a", .fails .missing⟩, ⟨"b", .succeeds⟩]).submit
        ⟨"b", .fails .missing⟩).2.disk.HasNewest "b" := by
  refine ⟨rfl, rfl, (submit_saved_iff _ _ _ _ rfl rfl).mpr (.inr ?_)⟩
  intro left failed
  cases failed

/-- Submitting again a line that could not be saved succeeds without a file. -/
theorem submit_unsaved_entry :
    ¬∀ (disk : Disk) (limit : Nat) (earlier : List Submission) (submission : Submission),
      isBlankText submission.line.toList = false →
      (((load disk limit).submitAll earlier).submit submission).1 = true →
      (((load disk limit).submitAll earlier).submit submission).2.disk.HasNewest
        submission.line := by
  intro durable
  obtain ⟨older, read⟩ := durable .directory 80 [⟨"a", Disk.directory.writing⟩]
    ⟨"a", Disk.directory.writing⟩ rfl rfl
  cases read

end Stored

end OperatorShell
