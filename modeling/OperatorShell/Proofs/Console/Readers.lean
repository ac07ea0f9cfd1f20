import Mathlib.Data.List.Nodup
import Mathlib.Logic.Function.Basic
import OperatorShell.Terminal

/-!
# Readers that share a terminal

Any number of readers are polled in any order, each as often as it takes.  The key source is in
the terminal or with the one reader that waits, and a poll moves it between the two or leaves it
where it is.  So the signals go to the readers one by one in the order of the source, a reader
that comes while another one waits is refused and takes nothing, and whatever ends the wait, the
source is back for the next reader.
-/

namespace OperatorShell

open Keys

/-- What a reader gets by a signal; without an answer it goes on waiting. -/
def Signal.answer? : Signal → Option (Except ReadError KeyEvent)
  | .pending => none
  | .key event => some (.ok event)
  | .failed message => some (.error (.fault (.source message)))
  | .closed => some (.error .closed)

/-- The key press of a signal. -/
def Signal.event? : Signal → Option KeyEvent
  | .key event => some event
  | _ => none

namespace KeyReader

/-- A source that is asked answers by its next signal. -/
@[simp] theorem ask_cons (signal : Signal) (rest : List Signal) :
    ask (signal :: rest) = (signal.answer?, rest) := by
  cases signal <;> rfl

/-- What a reader got from the source.  A reader that was refused got nothing from it. -/
def fromSource? : Except ReadError KeyEvent → Option (Except ReadError KeyEvent)
  | .error (.fault .busy) => none
  | result => some result

@[simp] theorem bind_fromSource?_answer? (signal : Signal) :
    signal.answer?.bind fromSource? = signal.answer? := by
  cases signal <;> rfl

end KeyReader

/-- Readers of one terminal. -/
structure Readers (ι : Type) where
  terminal : Terminal
  reader : ι → KeyReader
  /-- The readers that are done, in this order, with what they got. -/
  done : List (ι × Except ReadError KeyEvent)

namespace Readers

variable {ι : Type}

/-- Readers that have not been polled, and a terminal with a key source. -/
def ofSource (source : List Signal) : Readers ι := ⟨⟨some source⟩, fun _ => .idle, []⟩

/-- What the readers got from the source, in the order in which they were done. -/
def answers (readers : Readers ι) : List (Except ReadError KeyEvent) :=
  readers.done.filterMap fun entry => KeyReader.fromSource? entry.2

/-- The keys that the readers got, in the order in which they were done. -/
def keys (readers : Readers ι) : List KeyEvent :=
  readers.done.filterMap fun entry => entry.2.toOption

/-- Where the source is, and what it will deliver. -/
inductive Holds (readers : Readers ι) (left : List Signal) : Prop
  | free (inside : readers.terminal.source = some left)
      (none_waits : ∀ index source, readers.reader index ≠ .waiting source)
  | taken {holder : ι} (outside : readers.terminal.source = none)
      (waits : readers.reader holder = .waiting left)
      (alone : ∀ index source, readers.reader index = .waiting source → index = holder)

/-- The readers that are done are put down once each, with what they got. -/
structure Recorded (readers : Readers ι) : Prop where
  nodup : (readers.done.map Prod.fst).Nodup
  mem_done_iff : ∀ index result,
    (index, result) ∈ readers.done ↔ readers.reader index = .finished result

/-- The source has been read from its start up to what is left of it, signal by signal.  After its
last signal it is closed for everyone. -/
def Delivered (source left : List Signal) (readers : Readers ι) : Prop :=
  ∃ taken missing, source = taken ++ left ∧ (missing = 0 ∨ left = []) ∧
    readers.answers = taken.filterMap Signal.answer? ++ List.replicate missing (.error .closed)

/-- What holds of the readers between two polls. -/
structure Accounts (source left : List Signal) (readers : Readers ι) : Prop where
  recorded : readers.Recorded
  holds : readers.Holds left
  delivered : readers.Delivered source left

/-- Before the first poll nothing has been read. -/
theorem accounts_ofSource (source : List Signal) :
    (ofSource source : Readers ι).Accounts source source where
  recorded := ⟨List.nodup_nil, by simp [ofSource]⟩
  holds := .free rfl nofun
  delivered := ⟨[], 0, rfl, .inl rfl, rfl⟩

/-- A reader that has the source is the only one, and nothing is in the terminal. -/
theorem Holds.of_waiting {readers : Readers ι} {left held : List Signal} {index : ι}
    (holds : readers.Holds left) (waits : readers.reader index = .waiting held) :
    readers.terminal.source = none ∧ held = left ∧
      ∀ other source, readers.reader other = .waiting source → other = index := by
  cases holds with
  | free inside none_waits => exact absurd waits (none_waits index held)
  | taken outside holding alone =>
      obtain rfl := alone index held waits
      exact ⟨outside, KeyReader.waiting.inj (waits.symm.trans holding), alone⟩

/-- The keys that the readers got are those of the signals that were answered. -/
theorem keys_of_answers {readers : Readers ι} {taken : List Signal} {missing : Nat}
    (answers_eq : readers.answers =
      taken.filterMap Signal.answer? ++ List.replicate missing (.error .closed)) :
    readers.keys = taken.filterMap Signal.event? := by
  have keys_eq : readers.keys = readers.answers.filterMap Except.toOption := by
    rw [keys, answers, List.filterMap_filterMap]
    congr 1
    funext ⟨index, result⟩
    rcases result with (_ | _ | _ | _) | event <;> rfl
  have events (signal : Signal) : signal.answer?.bind Except.toOption = signal.event? := by
    cases signal <;> rfl
  simp [keys_eq, answers_eq, List.filterMap_filterMap, events, List.filterMap_replicate,
    Except.toOption]

variable [DecidableEq ι]

/-- A reader makes a step, and is put down when that makes it done. -/
def poll (readers : Readers ι) (index : ι) : Readers ι :=
  let before := readers.reader index
  let (after, terminal) := before.poll readers.terminal
  { terminal := terminal
    reader := Function.update readers.reader index after
    done := readers.done ++
      if before.result?.isNone then (after.result?.map (Prod.mk index)).toList else [] }

/-- Readers make steps in turn, as a schedule says. -/
def pollAll (readers : Readers ι) (schedule : List ι) : Readers ι := schedule.foldl poll readers

/-- A reader is done and leaves the terminal in this state. -/
def finish (readers : Readers ι) (index : ι) (result : Except ReadError KeyEvent)
    (terminal : Terminal) : Readers ι :=
  ⟨terminal, Function.update readers.reader index (.finished result),
    readers.done ++ [(index, result)]⟩

/-- A reader that comes while another one waits is done without the source. -/
def refuse (readers : Readers ι) (index : ι) : Readers ι :=
  readers.finish index (.error (.fault .busy)) readers.terminal

/-- A reader asks the source: it waits with the source, or it is done and the source is back. -/
def ask (readers : Readers ι) (index : ι) (source : List Signal) : Readers ι :=
  match KeyReader.ask source with
  | (none, rest) => ⟨⟨none⟩, Function.update readers.reader index (.waiting rest), readers.done⟩
  | (some result, rest) => readers.finish index result ⟨some rest⟩

/-- All that a poll can do: nothing, refuse the reader because another one waits, or let it ask the
source, which nobody else has then. -/
inductive Polls (readers : Readers ι) (left : List Signal) (index : ι) : Prop
  | finished {result : Except ReadError KeyEvent} (done : readers.reader index = .finished result)
      (same : readers.poll index = readers)
  | refused {holder : ι} (idle : readers.reader index = .idle)
      (waits : readers.reader holder = .waiting left)
      (told : readers.poll index = readers.refuse index)
  | asks (unfinished : ∀ result, readers.reader index ≠ .finished result)
      (alone : ∀ other source, readers.reader other = .waiting source → other = index)
      (asked : readers.poll index = readers.ask index left)

section Poll

variable {readers : Readers ι} {index : ι} {left : List Signal}

theorem poll_of_finished {result : Except ReadError KeyEvent}
    (finished : readers.reader index = .finished result) : readers.poll index = readers := by
  have same : Function.update readers.reader index (.finished result) = readers.reader := by
    rw [← finished]
    exact Function.update_eq_self ..
  simp [poll, finished, KeyReader.poll, KeyReader.result?, same]

theorem poll_of_refused (idle : readers.reader index = .idle)
    (outside : readers.terminal.source = none) : readers.poll index = readers.refuse index := by
  simp [poll, idle, KeyReader.poll, outside, KeyReader.result?, refuse, finish]

theorem poll_of_waiting {source : List Signal} (waits : readers.reader index = .waiting source) :
    readers.poll index = readers.ask index source := by
  rcases asked : KeyReader.ask source with ⟨_ | result, rest⟩ <;>
    simp [poll, waits, KeyReader.poll, KeyReader.askSource, asked, KeyReader.result?, ask, finish]

theorem poll_of_idle {source : List Signal} (idle : readers.reader index = .idle)
    (inside : readers.terminal.source = some source) :
    readers.poll index = readers.ask index source := by
  rcases asked : KeyReader.ask source with ⟨_ | result, rest⟩ <;>
    simp [poll, idle, inside, KeyReader.poll, KeyReader.askSource, asked, KeyReader.result?, ask,
      finish]

theorem Holds.polls (holds : readers.Holds left) (index : ι) : readers.Polls left index := by
  cases state : readers.reader index with
  | finished result => exact .finished state (poll_of_finished state)
  | idle =>
      have unfinished (result) : readers.reader index ≠ .finished result := by simp [state]
      cases holds with
      | free inside none_waits =>
          refine .asks unfinished ?_ (poll_of_idle state inside)
          intro other source waits
          exact absurd waits (none_waits other source)
      | taken outside waits alone => exact .refused state waits (poll_of_refused state outside)
  | waiting source =>
      have unfinished (result) : readers.reader index ≠ .finished result := by simp [state]
      cases holds with
      | free inside none_waits => exact absurd state (none_waits index source)
      | taken outside waits alone =>
          obtain rfl := alone index source state
          obtain rfl : source = left := KeyReader.waiting.inj (state.symm.trans waits)
          exact .asks unfinished alone (poll_of_waiting state)

end Poll

section Steps

variable {source left : List Signal} {readers : Readers ι} {index : ι}

theorem update_eq_iff {reader : ι → KeyReader} {state expected : KeyReader} {other : ι} :
    Function.update reader index state other = expected ↔
      (other = index ∧ state = expected) ∨ (other ≠ index ∧ reader other = expected) := by
  by_cases same : other = index
  · subst same
    simp
  · simp [same]

/-- A reader that is done for the first time is put down behind the others. -/
theorem Recorded.finish (recorded : readers.Recorded)
    (unfinished : ∀ result, readers.reader index ≠ .finished result)
    (result : Except ReadError KeyEvent) (terminal : Terminal) :
    (readers.finish index result terminal).Recorded where
  nodup := by
    simp only [Readers.finish, List.map_append, List.map_cons, List.map_nil]
    refine List.nodup_append.mpr ⟨recorded.nodup, List.nodup_singleton _, ?_⟩
    intro other member last isLast same
    obtain ⟨entry, inDone, rfl⟩ := List.mem_map.mp member
    rw [List.mem_singleton] at isLast
    have finished := (recorded.mem_done_iff entry.1 entry.2).mp inDone
    rw [same, isLast] at finished
    exact unfinished entry.2 finished
  mem_done_iff := by
    intro other answer
    simp only [Readers.finish, List.mem_append, List.mem_singleton, Prod.mk.injEq, update_eq_iff,
      KeyReader.finished.injEq, recorded.mem_done_iff]
    constructor
    · rintro (before | ⟨rfl, rfl⟩)
      · refine .inr ⟨?_, before⟩
        rintro rfl
        exact unfinished answer before
      · exact .inl ⟨rfl, rfl⟩
    · rintro (⟨rfl, rfl⟩ | ⟨-, before⟩)
      · exact .inr ⟨rfl, rfl⟩
      · exact .inl before

/-- A reader that waits is not put down. -/
theorem Recorded.wait (recorded : readers.Recorded)
    (unfinished : ∀ result, readers.reader index ≠ .finished result) (rest : List Signal)
    (terminal : Terminal) :
    (⟨terminal, Function.update readers.reader index (.waiting rest), readers.done⟩ :
      Readers ι).Recorded where
  nodup := recorded.nodup
  mem_done_iff := by
    intro other answer
    simp only [update_eq_iff, reduceCtorEq, and_false, false_or, recorded.mem_done_iff]
    refine (and_iff_right_of_imp ?_).symm
    rintro before rfl
    exact unfinished answer before

/-- A refusal leaves the source where it is. -/
theorem Holds.refuse (holds : readers.Holds left) (idle : readers.reader index = .idle) :
    (readers.refuse index).Holds left := by
  cases holds with
  | free inside none_waits =>
      refine .free inside ?_
      intro other source
      simp [Readers.refuse, Readers.finish, update_eq_iff, none_waits]
  | @taken holder outside waits alone =>
      have apart : holder ≠ index := by
        rintro rfl
        exact KeyReader.noConfusion (idle.symm.trans waits)
      have stillWaits : (readers.refuse index).reader holder = .waiting left := by
        simp [Readers.refuse, Readers.finish, apart, waits]
      refine .taken outside stillWaits ?_
      intro other source waiting
      simp only [Readers.refuse, Readers.finish, update_eq_iff, reduceCtorEq, and_false,
        false_or] at waiting
      exact alone other source waiting.2

/-- Who asks has the source afterwards, or has put it back. -/
theorem holds_ask
    (alone : ∀ other source, readers.reader other = .waiting source → other = index) :
    (readers.ask index left).Holds (KeyReader.ask left).2 := by
  have others (state : KeyReader) {other : ι} {source : List Signal}
      (waiting : Function.update readers.reader index state other = .waiting source) :
      other = index := by
    rcases update_eq_iff.mp waiting with ⟨same, -⟩ | ⟨-, before⟩
    · exact same
    · exact alone other source before
  rw [Readers.ask]
  rcases KeyReader.ask left with ⟨_ | result, rest⟩
  · exact .taken rfl (Function.update_self ..) fun other source => others _
  · refine .free rfl ?_
    intro other source waiting
    obtain rfl := others _ waiting
    simp [Readers.finish] at waiting

theorem Delivered.refuse (delivered : readers.Delivered source left) (index : ι) :
    (readers.refuse index).Delivered source left := by
  have same : (readers.refuse index).answers = readers.answers := by
    simp [answers, Readers.refuse, Readers.finish, KeyReader.fromSource?]
  rwa [Delivered, same]

/-- What the reader gets is the answer of the source. -/
theorem answers_ask (readers : Readers ι) (index : ι) (left : List Signal) :
    (readers.ask index left).answers = readers.answers ++
      ((KeyReader.ask left).1.bind KeyReader.fromSource?).toList := by
  rw [Readers.ask]
  rcases KeyReader.ask left with ⟨_ | result, rest⟩
  · simp [answers]
  · cases got : KeyReader.fromSource? result <;> simp [answers, Readers.finish, got]

theorem Delivered.ask (delivered : readers.Delivered source left) (index : ι) :
    (readers.ask index left).Delivered source (KeyReader.ask left).2 := by
  obtain ⟨taken, missing, split, atEnd, answers_eq⟩ := delivered
  unfold Delivered
  rw [answers_ask, answers_eq]
  cases left with
  | nil =>
      refine ⟨taken, missing + 1, split, .inr rfl, ?_⟩
      rw [List.append_assoc, List.replicate_succ']
      rfl
  | cons signal rest =>
      obtain rfl : missing = 0 := by simpa using atEnd
      refine ⟨taken ++ [signal], 0, by simp [split], .inl rfl, ?_⟩
      rw [KeyReader.ask_cons, KeyReader.bind_fromSource?_answer?]
      cases got : signal.answer? <;> simp [got]

/-- A poll keeps the accounts, with what it leaves of the source. -/
theorem Accounts.poll (accounts : readers.Accounts source left) (index : ι) :
    ∃ rest, (readers.poll index).Accounts source rest := by
  cases accounts.holds.polls index with
  | finished done same =>
      rw [same]
      exact ⟨left, accounts⟩
  | refused idle waits told =>
      have unfinished (result) : readers.reader index ≠ .finished result := by simp [idle]
      have recorded := accounts.recorded.finish unfinished (.error (.fault .busy)) readers.terminal
      rw [told]
      exact ⟨left, recorded, accounts.holds.refuse idle, accounts.delivered.refuse index⟩
  | asks unfinished alone asked =>
      rw [asked]
      refine ⟨(KeyReader.ask left).2, ?_, holds_ask alone, accounts.delivered.ask index⟩
      rw [Readers.ask]
      rcases KeyReader.ask left with ⟨_ | result, rest⟩
      · exact accounts.recorded.wait unfinished rest ⟨none⟩
      · exact accounts.recorded.finish unfinished result ⟨some rest⟩

/-- The accounts hold however the polls are interleaved. -/
theorem exists_accounts (source : List Signal) (schedule : List ι) :
    ∃ left, ((ofSource source).pollAll schedule).Accounts source left := by
  refine List.foldlRecOn (motive := fun readers => ∃ left, readers.Accounts source left) schedule
    Readers.poll ⟨source, accounts_ofSource source⟩ ?_
  rintro readers ⟨left, accounts⟩ index -
  exact accounts.poll index

/-- When the source has answered, it is in the terminal again and the next reader asks it. -/
theorem exists_rest_of_finished {held : List Signal} {result : Except ReadError KeyEvent}
    (waits : readers.reader index = .waiting held)
    (finished : (readers.poll index).reader index = .finished result) :
    (readers.poll index).terminal.source = some (KeyReader.ask held).2 ∧
      ∀ next, readers.reader next = .idle →
        (readers.poll index).poll next = (readers.poll index).ask next (KeyReader.ask held).2 := by
  have inside : (readers.poll index).terminal.source = some (KeyReader.ask held).2 := by
    rw [poll_of_waiting waits, Readers.ask] at finished ⊢
    rcases asked : KeyReader.ask held with ⟨_ | answer, rest⟩
    · simp [asked] at finished
    · rfl
  refine ⟨inside, ?_⟩
  intro next idle
  have apart : next ≠ index := by
    rintro rfl
    exact KeyReader.noConfusion (idle.symm.trans waits)
  apply poll_of_idle _ inside
  rw [poll_of_waiting waits, Readers.ask]
  rcases KeyReader.ask held with ⟨_ | answer, rest⟩ <;>
    simpa [Readers.finish, apart] using idle

end Steps

/-- What readers that share a terminal can rely on between any two polls. -/
structure Exclusive (source left : List Signal) (readers : Readers ι) : Prop where
  /-- A reader is done once, and nobody gets anything in another way. -/
  recorded : readers.Recorded
  /-- What is left of the source is in the terminal or with the one reader that waits. -/
  holds : readers.Holds left
  /-- The source has answered one reader after another, and the keys among its answers are those
  of the signals it has delivered. -/
  delivered : ∃ taken missing, source = taken ++ left ∧ (missing = 0 ∨ left = []) ∧
    readers.answers = taken.filterMap Signal.answer? ++ List.replicate missing (.error .closed) ∧
    readers.keys = taken.filterMap Signal.event?
  /-- Every reader that is not done is refused because of another one or asks the source. -/
  polls : ∀ index, readers.Polls left index
  /-- A reader that comes while another one waits is told so, and nothing else changes. -/
  refused : ∀ {holder other : ι} {held : List Signal},
    readers.reader holder = .waiting held → readers.reader other = .idle →
      readers.poll other =
        ⟨readers.terminal, Function.update readers.reader other
            (.finished (.error (.fault .busy))),
          readers.done ++ [(other, .error (.fault .busy))]⟩
  /-- Whatever ended the wait, the source is back, and the next reader asks it. -/
  released : ∀ {holder : ι} {held : List Signal} {result : Except ReadError KeyEvent},
    readers.reader holder = .waiting held →
      (readers.poll holder).reader holder = .finished result →
        ∃ rest, rest <:+ held ∧ (readers.poll holder).terminal.source = some rest ∧
          ∀ next, readers.reader next = .idle →
            (readers.poll holder).poll next = (readers.poll holder).ask next rest

/-- However the polls of any number of readers are interleaved, they read one at a time: every key
goes to exactly one reader, in the order of the source; whoever comes while another one waits is
refused and takes nothing; and after a key, the end of the input or a failure of the source the next
reader can use it again. -/
theorem exclusive (source : List Signal) (schedule : List ι) :
    ∃ left, ((ofSource source).pollAll schedule).Exclusive source left := by
  obtain ⟨left, accounts⟩ := exists_accounts source schedule
  generalize (ofSource source).pollAll schedule = readers at accounts
  refine ⟨left, ?_⟩
  constructor
  case recorded => exact accounts.recorded
  case holds => exact accounts.holds
  case delivered =>
      obtain ⟨taken, missing, split, atEnd, answers_eq⟩ := accounts.delivered
      exact ⟨taken, missing, split, atEnd, answers_eq, keys_of_answers answers_eq⟩
  case polls => exact accounts.holds.polls
  case refused =>
      intro holder other held waits idle
      exact poll_of_refused idle (accounts.holds.of_waiting waits).1
  case released =>
      intro holder held result waits finished
      obtain ⟨inside, next⟩ := exists_rest_of_finished waits finished
      refine ⟨(KeyReader.ask held).2, ?_, inside, next⟩
      cases held with
      | nil => exact List.suffix_rfl
      | cons signal rest =>
          rw [KeyReader.ask_cons]
          exact List.suffix_cons ..

/-- While the first reader waits the second one is refused; the third one reads on. -/
example : ((ofSource [.pending, .failed "unplugged", .key (.plain .tab)] : Readers (Fin 3)).pollAll
      [0, 1, 0, 2]).done =
    [(1, .error (.fault .busy)), (0, .error (.fault (.source "unplugged"))),
      (2, .ok (.plain .tab))] := rfl

end Readers

end OperatorShell
