import OperatorShell.Proofs.History.Saving

/-!
# Restarting with a history

As long as every attempt to write the file succeeds, the file holds the entries from the first
new one on, and loading it again gives them back.  Before that nothing is written, so a file
that cannot be read as a history stays as it is.
-/

namespace OperatorShell

/-- Whether one of the lines makes an entry when they are recorded one after the other. -/
def History.makesEntry (history : History) : List String → Bool
  | [] => false
  | line :: rest => history.accepts line || makesEntry (history.push line) rest

namespace Stored

/-- Submit lines while every attempt to write the file succeeds. -/
def saveAll (stored : Stored) (lines : List String) : Stored :=
  stored.submitAll (lines.map fun line => ⟨line, .succeeds⟩)

/-- The history in memory goes through the lines in their order. -/
theorem history_saveAll (stored : Stored) (lines : List String) :
    (stored.saveAll lines).history = lines.foldl History.push stored.history := by
  rw [saveAll, history_submitAll, List.map_map]
  congr
  exact List.map_id lines

theorem lastWriting_saved (last : Option Writing) (history : History) (lines : List String) :
    lastWriting last history (lines.map fun line => ⟨line, .succeeds⟩) =
      if history.makesEntry lines then some .succeeds else last := by
  induction lines generalizing last history with
  | nil => rfl
  | cons line rest ih =>
      rw [List.map_cons, lastWriting, ih, History.makesEntry]
      cases history.accepts line <;> simp

/-- Lines that make no entry leave the file alone, and after lines that do, whoever loads the file
gets the entries in memory, as many as they want. -/
theorem load_saveAll (disk : Disk) (limit : Nat) (lines : List String) (later : Nat) :
    if (History.load disk limit).makesEntry lines then
      (History.load ((load disk limit).saveAll lines).disk later).entries =
        (lines.foldl History.push (History.load disk limit)).entries.take (max later 1)
    else ((load disk limit).saveAll lines).disk = disk := by
  have recorded : ((load disk limit).saveAll lines).history =
      lines.foldl History.push (History.load disk limit) :=
    history_saveAll (load disk limit) lines
  have account : Account disk ((load disk limit).saveAll lines) _ :=
    (account_load disk limit).submitAll (lines.map fun line => ⟨line, .succeeds⟩)
  have written := account.disk_eq
  rw [lastWriting_saved, recorded] at written
  rw [written, load]
  split
  · change List.take _ (History.readEntries (.file _)) = _
    rw [History.readEntries_file]
  · rfl

end Stored

end OperatorShell
