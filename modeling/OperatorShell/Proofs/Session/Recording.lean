import OperatorShell.Proofs.History.Saving
import OperatorShell.Proofs.Session.PromptInterrupt
import OperatorShell.Proofs.Session.ShortCircuit

/-!
# Lines and the history

The command prompt goes through the history but changes none of its entries, and running a line
leaves the history alone.  So the history of a session is the one it started with and the lines
that were read, in their order.  What becomes of the history file has no influence on that:
the loop goes through the same lines to the same end.
-/

namespace OperatorShell

open Command Session Keys

variable {σ : Type}

namespace History

/-- Going through the entries is forgotten when a line is recorded. -/
@[simp] theorem push_resetScroll (history : History) (line : String) :
    history.resetScroll.push line = history.push line := by
  unfold push
  change (if history.accepts line then _ else _) = _
  split <;> rfl

theorem push_congr {left right : History} (same : left.resetScroll = right.resetScroll)
    (line : String) : left.push line = right.push line := by
  rw [← push_resetScroll left, same, push_resetScroll]

@[simp] theorem resetScroll_previous (history : History) :
    history.previous.2.resetScroll = history.resetScroll := by
  unfold previous
  split <;> rfl

@[simp] theorem resetScroll_next (history : History) :
    history.next.2.resetScroll = history.resetScroll := rfl

end History

namespace Session.PromptState

section History

variable (registry : Registry σ) (settings : Settings) (state : PromptState σ)

theorem resetScroll_showOlder :
    state.showOlder.history.resetScroll = state.history.resetScroll := by
  have kept := state.history.resetScroll_previous
  unfold showOlder
  dsimp only
  split <;> exact kept

theorem resetScroll_showNewer :
    state.showNewer.history.resetScroll = state.history.resetScroll := by
  unfold showNewer
  split
  · rfl
  · exact state.history.resetScroll_next

theorem history_answered (pageSize : Nat) (before : List Char)
    (answer : Except ProviderError (List Candidate) × σ) :
    (state.answered pageSize before answer).history = state.history := by
  match answer with
  | (.error _, _) | (.ok [], _) | (.ok [_], _) | (.ok (_ :: _ :: _), _) => rfl

theorem history_complete : (state.complete registry settings).state.history = state.history := by
  obtain ⟨screen, complete_eq⟩ := exists_complete_eq registry settings state
  rw [complete_eq]
  exact history_answered ..

/-- An action on the line changes no entry of the history. -/
theorem keeps_act (action : Action) :
    (state.act registry settings action).Keeps
      (·.history.resetScroll = state.history.resetScroll) := by
  cases action with
  | submit | endOfInput =>
      unfold act
      dsimp only
      split <;> rfl
  | historyPrevious => exact state.resetScroll_showOlder
  | historyNext => exact state.resetScroll_showNewer
  | complete =>
      have kept := congrArg History.resetScroll (state.history_complete registry settings)
      exact Attempt.keeps_wait kept
  | _ => rfl

theorem keeps_reactLine (event : KeyEvent) :
    (state.reactLine registry settings event).Keeps
      (·.history.resetScroll = state.history.resetScroll) := by
  unfold reactLine
  split
  · exact state.keeps_act registry settings _
  · rfl

/-- No key changes an entry of the history. -/
theorem keeps_react (event : KeyEvent) :
    (state.react registry settings event).Keeps
      (·.history.resetScroll = state.history.resetScroll) := by
  unfold react
  split
  · exact state.keeps_reactLine registry settings event
  · split
    · rfl
    · unfold resume
      split
      · rfl
      · rfl
      · rfl
      · exact keeps_reactLine registry settings (refresh (closePicker state _ _)).state _

theorem history_abandon : state.abandon.state.history = state.history := by
  unfold abandon
  split <;> rfl

end History

end Session.PromptState

/-- The session apart from its history file. -/
def Session.unsaved (session : Session σ) : Session σ := { session with disk := .missing }

namespace Turn

/-- The turn apart from the history file. -/
def unsaved (turn : Turn σ) : Turn σ :=
  { turn with read := turn.read.unsaved, after := turn.after.unsaved }

/-- What running the line reports. -/
def reports (shell : Shell σ) (turn : Turn σ) : List Report :=
  (runLine shell.registry shell.settings.askStyle turn.line
    ⟨turn.read.console, turn.read.store⟩).1

/-- Whether a command on the line was interrupted. -/
def isInterrupted (shell : Shell σ) (turn : Turn σ) : Bool :=
  (turn.reports shell).any Report.isInterrupted

end Turn

namespace Shell

variable {shell : Shell σ} {session last : Session σ} {turn : Turn σ} {turns : List (Turn σ)}
  {result : Except ReadError Unit}

/-- Reading a line changes no entry of the history. -/
theorem resetScroll_readLine (shell : Shell σ) (session : Session σ) :
    (shell.readLine session).2.history.resetScroll = session.history.resetScroll :=
  (PromptState.widget shell.registry shell.settings).converse_keeps (·.history.resetScroll)
    (fun state event => state.keeps_react shell.registry shell.settings event)
    (fun state => congrArg History.resetScroll state.history_abandon) _ session.console.signals

/-- A line ends interrupted when one of its commands was, and otherwise as its last clause
did. -/
theorem runOnce_fst (shell : Shell σ) (line : String) (session : Session σ) :
    (shell.runOnce line session).1 =
      let reports := (runLine shell.registry shell.settings.askStyle line
        ⟨session.console, session.store⟩).1
      if reports.any Report.isInterrupted then .error .interrupted
      else .ok (allWell reports) := by
  simp only [runOnce, dispatch, announce_fst]
  split <;> rfl

/-- Running a line leaves the history alone. -/
theorem history_runOnce (shell : Shell σ) (line : String) (session : Session σ) :
    (shell.runOnce line session).2.history = session.history := by
  simp only [runOnce, dispatch]

theorem history_record (line : String) (session : Session σ) :
    (record line session).history = session.history.push line := by
  change (History.submit _ _ _).2 = _
  unfold History.submit History.submitWith
  dsimp only
  split <;> rfl

/-- A turn takes the history one line further before the line is run. -/
theorem Takes.exists_saved (takes : shell.Takes session turn) :
    ∃ saved : Session σ,
      saved.history = session.history.push turn.line ∧
        saved.console = turn.read.console ∧ saved.store = turn.read.store ∧
          shell.runOnce turn.line saved = (turn.result, turn.after) := by
  have read := shell.resetScroll_readLine session
  rw [takes.read_eq] at read
  refine ⟨record turn.line turn.read, ?_, rfl, rfl, takes.ran_eq⟩
  rw [history_record]
  exact History.push_congr read turn.line

theorem Takes.history_after (takes : shell.Takes session turn) :
    turn.after.history = session.history.push turn.line := by
  obtain ⟨saved, history_eq, -, -, ran⟩ := takes.exists_saved
  have kept := shell.history_runOnce turn.line saved
  rw [ran] at kept
  exact kept.trans history_eq

/-- A turn fails when a command on the line was interrupted, and only then. -/
theorem Takes.result_eq (takes : shell.Takes session turn) :
    turn.result =
      if turn.isInterrupted shell then .error .interrupted
      else .ok (allWell (turn.reports shell)) := by
  have ran := shell.runOnce_fst turn.line (record turn.line turn.read)
  rwa [takes.ran_eq] at ran

/-- What the loop makes of a prompt that ends without a line. -/
def closing : ReadError → Except ReadError Unit
  | .closed => .ok ()
  | error => .error error

/-- How the turns of a loop account for its lines, its result and the history. -/
structure Accounts (shell : Shell σ) (session : Session σ) (turns : List (Turn σ))
    (result : Except ReadError Unit) (last : Session σ) : Prop where
  /-- A line is recorded behind the ones before it, and is run after that. -/
  recorded : ∀ front turn back, turns = front ++ turn :: back →
    ∃ saved : Session σ,
      saved.history =
          ((front ++ [turn]).map Turn.line).foldl History.push session.history ∧
        saved.console = turn.read.console ∧ saved.store = turn.read.store ∧
          shell.runOnce turn.line saved = (turn.result, turn.after)
  /-- In the end the history has gone through all lines. -/
  history_eq : last.history.resetScroll =
    ((turns.map Turn.line).foldl History.push session.history).resetScroll
  /-- A line is the last one when a command on it was interrupted. -/
  goes_on : ∀ front turn back, turns = front ++ turn :: back →
    turn.isInterrupted shell = true → back = []
  /-- Then the loop is interrupted. -/
  interrupted : ∀ turn ∈ turns, turn.isInterrupted shell = true →
    result = .error .interrupted ∧ last = turn.after
  /-- Otherwise it is the prompt that ends the loop. -/
  prompted : (∀ turn ∈ turns, turn.isInterrupted shell = false) →
    ∃ error, shell.readLine ((turns.map Turn.after).getLastD session) = (.error error, last) ∧
      result = closing error

/-- A prompt that ends without a line ends the loop. -/
theorem accounts_of_readLine {error : ReadError}
    (read : shell.readLine session = (.error error, last)) :
    shell.Accounts session [] (closing error) last where
  recorded := by simp
  history_eq := by
    have kept := shell.resetScroll_readLine session
    rwa [read] at kept
  goes_on := by simp
  interrupted := by simp
  prompted _ := ⟨error, read, rfl⟩

/-- An interrupted command ends the loop. -/
theorem Takes.accounts_of_interrupted (takes : shell.Takes session turn)
    (interrupted : turn.isInterrupted shell = true) :
    shell.Accounts session [turn] (.error .interrupted) turn.after where
  recorded front later back split := by
    obtain ⟨rfl, rfl, rfl⟩ : front = [] ∧ later = turn ∧ back = [] := by
      cases front <;> simp_all
    exact takes.exists_saved
  history_eq := congrArg History.resetScroll takes.history_after
  goes_on front later back split _ := by cases front <;> simp_all
  interrupted := by simp
  prompted going := by
    rw [going turn List.mem_cons_self] at interrupted
    cases interrupted

/-- The account of a turn that goes on is put in front of that of the later ones. -/
theorem Accounts.cons (accounts : shell.Accounts turn.after turns result last)
    (takes : shell.Takes session turn) (going : turn.isInterrupted shell = false) :
    shell.Accounts session (turn :: turns) result last where
  recorded front later back split := by
    match front with
    | [] =>
      obtain ⟨rfl, rfl⟩ := List.cons.inj split
      exact takes.exists_saved
    | first :: front =>
      obtain ⟨rfl, rest⟩ := List.cons.inj split
      have behind := accounts.recorded front later back rest
      rwa [takes.history_after] at behind
  history_eq := by
    have behind := accounts.history_eq
    rwa [takes.history_after] at behind
  goes_on front later back split interrupted := by
    match front with
    | [] =>
      obtain ⟨rfl, rfl⟩ := List.cons.inj split
      rw [going] at interrupted
      cases interrupted
    | first :: front =>
      obtain ⟨rfl, rest⟩ := List.cons.inj split
      exact accounts.goes_on front later back rest interrupted
  interrupted later member interrupted := by
    rcases List.mem_cons.mp member with rfl | member
    · rw [going] at interrupted
      cases interrupted
    · exact accounts.interrupted later member interrupted
  prompted all := by
    have behind := accounts.prompted fun later member => all later (List.mem_cons_of_mem _ member)
    rw [List.map_cons, List.getLastD_cons]
    exact behind

theorem Runs.accounts (runs : shell.Runs session turns result last) :
    shell.Accounts session turns result last := by
  induction runs with
  | closed read => exact accounts_of_readLine read
  | @broken session last error read opened =>
      have account := accounts_of_readLine read
      cases error with
      | closed => exact absurd rfl opened
      | interrupted | fault reason => exact account
  | @stopped session turn error takes stopped =>
      have decided := takes.result_eq
      rw [stopped] at decided
      cases interrupted : turn.isInterrupted shell with
      | true =>
        rw [interrupted] at decided
        cases decided
        exact takes.accounts_of_interrupted interrupted
      | false =>
        rw [interrupted] at decided
        cases decided
  | @turn session last turn turns succeeded result takes went_on runs ih =>
      have decided := takes.result_eq
      rw [went_on] at decided
      cases interrupted : turn.isInterrupted shell with
      | true =>
        rw [interrupted] at decided
        cases decided
      | false => exact ih.cons takes interrupted

/-- Record a line when an attempt to write the history file ends in the given way. -/
def recordSaving (writing : Writing) (line : String) (session : Session σ) : Session σ :=
  let stored := ((⟨session.history, session.disk⟩ : Stored).submit ⟨line, writing⟩).2
  { session with history := stored.history, disk := stored.disk }

/-- A file that nobody else changes is one of the ways. -/
theorem record_eq_recordSaving (line : String) (session : Session σ) :
    record line session = recordSaving session.disk.writing line session := by
  have left : session.disk.writing.leftover session.disk = session.disk := by
    cases session.disk <;> rfl
  have submitted : session.history.submit line session.disk =
      session.history.submitWith session.disk.writing.write? line session.disk := by
    unfold History.submit History.submitWith History.persistWith?
    simp only [Disk.write?_eq_writing]
  simp only [record, recordSaving, Stored.submit, submitted, left]

/-- Apart from the file a line is recorded in one way only. -/
theorem unsaved_recordSaving (writing : Writing) (line : String) (session : Session σ) :
    (recordSaving writing line session).unsaved =
      { session.unsaved with history := session.unsaved.history.push line } := by
  have kept := (⟨session.history, session.disk⟩ : Stored).history_submit ⟨line, writing⟩
  simp only [Session.unsaved, recordSaving, kept]

/-- Reading a line does not look at the history file. -/
theorem readLine_unsaved (shell : Shell σ) (session : Session σ) :
    shell.readLine session.unsaved =
      ((shell.readLine session).1, (shell.readLine session).2.unsaved) := rfl

/-- Running a line does not look at the history file. -/
theorem runOnce_unsaved (shell : Shell σ) (line : String) (session : Session σ) :
    shell.runOnce line session.unsaved =
      ((shell.runOnce line session).1, (shell.runOnce line session).2.unsaved) := by
  simp only [runOnce, dispatch, Session.unsaved]

/-- The shell reads a line, records it and runs it, when an attempt to write the history file ends
in the given way. -/
structure TakesSaving (shell : Shell σ) (writing : Writing) (session : Session σ)
    (turn : Turn σ) : Prop where
  read_eq : shell.readLine session = (.ok turn.line, turn.read)
  ran_eq : shell.runOnce turn.line (recordSaving writing turn.line turn.read) =
    (turn.result, turn.after)

/-- The turns of the loop when the attempts to write the history file end in the given ways, one
after the other. -/
inductive RunsSaving (shell : Shell σ) : (Nat → Writing) →
    Session σ → List (Turn σ) → Except ReadError Unit → Session σ → Prop where
  | closed {writings : Nat → Writing} {session last : Session σ} :
      shell.readLine session = (.error .closed, last) →
        RunsSaving shell writings session [] (.ok ()) last
  | broken {writings : Nat → Writing} {session last : Session σ} {error : ReadError} :
      shell.readLine session = (.error error, last) → error ≠ .closed →
        RunsSaving shell writings session [] (.error error) last
  | stopped {writings : Nat → Writing} {session : Session σ} {turn : Turn σ}
      {error : ReadError} :
      shell.TakesSaving (writings 0) session turn → turn.result = .error error →
        RunsSaving shell writings session [turn] (.error error) turn.after
  | turn {writings : Nat → Writing} {session last : Session σ} {turn : Turn σ}
      {turns : List (Turn σ)} {succeeded : Bool} {result : Except ReadError Unit} :
      shell.TakesSaving (writings 0) session turn → turn.result = .ok succeeded →
        RunsSaving shell (fun index => writings (index + 1)) turn.after turns result last →
          RunsSaving shell writings session (turn :: turns) result last

section Saving

variable {writings : Nat → Writing} {writing : Writing}

theorem TakesSaving.unique {other : Turn σ} (takes : shell.TakesSaving writing session turn)
    (takesOther : shell.TakesSaving writing session other) : turn = other := by
  obtain ⟨line, read, outcome, after⟩ := turn
  have read_eq := takes.read_eq.symm.trans takesOther.read_eq
  obtain ⟨line_eq, rfl⟩ := Prod.mk.inj read_eq
  obtain rfl := Except.ok.inj line_eq
  have ran_eq := takes.ran_eq.symm.trans takesOther.ran_eq
  obtain ⟨rfl, rfl⟩ := Prod.mk.inj ran_eq
  rfl

/-- How the attempts to write end decides about the turns and the end of the loop. -/
theorem RunsSaving.unique {others : List (Turn σ)} {otherResult : Except ReadError Unit}
    {otherLast : Session σ} (runs : shell.RunsSaving writings session turns result last)
    (runsOther : shell.RunsSaving writings session others otherResult otherLast) :
    turns = others ∧ result = otherResult ∧ last = otherLast := by
  -- What the prompt reads decides whether there is a turn, and its result whether it is the last.
  induction runs generalizing others otherResult otherLast with
  | closed read | broken read opened =>
      cases runsOther with
      | closed readOther | broken readOther => simp_all
      | stopped takes | turn takes => simp_all [takes.read_eq]
  | stopped takes stopped =>
      cases runsOther with
      | closed read | broken read => simp_all [takes.read_eq]
      | stopped takesOther | turn takesOther =>
          obtain rfl := takes.unique takesOther
          simp_all
  | turn takes went_on _ ih =>
      cases runsOther with
      | closed read | broken read => simp_all [takes.read_eq]
      | stopped takesOther =>
          obtain rfl := takes.unique takesOther
          simp_all
      | turn takesOther _ later =>
          obtain rfl := takes.unique takesOther
          obtain ⟨rfl, rfl, rfl⟩ := ih later
          exact ⟨rfl, rfl, rfl⟩

/-- Another end of the attempt to write leads to the same turn. -/
theorem Takes.saving (takes : shell.Takes session turn) {other : Session σ}
    (same : other.unsaved = session.unsaved) (writing : Writing) :
    ∃ later, shell.TakesSaving writing other later ∧ later.unsaved = turn.unsaved := by
  rcases read_eq : shell.readLine other with ⟨answer, read⟩
  have readOther := shell.readLine_unsaved other
  rw [same, readLine_unsaved, takes.read_eq, read_eq] at readOther
  obtain ⟨rfl, sameRead⟩ := Prod.mk.inj readOther
  have recorded : (record turn.line turn.read).unsaved =
      (recordSaving writing turn.line read).unsaved := by
    rw [record_eq_recordSaving, unsaved_recordSaving, unsaved_recordSaving, sameRead]
  rcases ran_eq : shell.runOnce turn.line (recordSaving writing turn.line read) with
    ⟨outcome, after⟩
  have ranOther := shell.runOnce_unsaved turn.line (recordSaving writing turn.line read)
  rw [← recorded, runOnce_unsaved, takes.ran_eq, ran_eq] at ranOther
  obtain ⟨rfl, sameAfter⟩ := Prod.mk.inj ranOther
  refine ⟨⟨turn.line, read, turn.result, after⟩, ⟨read_eq, ran_eq⟩, ?_⟩
  simp only [Turn.unsaved, sameRead, sameAfter]

/-- However the attempts to write end, the loop takes the same turns to the same end. -/
theorem Runs.saving (runs : shell.Runs session turns result last) {other : Session σ}
    (same : other.unsaved = session.unsaved) (writings : Nat → Writing) :
    ∃ others later, shell.RunsSaving writings other others result later ∧
      others.map Turn.unsaved = turns.map Turn.unsaved ∧ later.unsaved = last.unsaved := by
  have reads {session other later : Session σ} {error : ReadError}
      (read : shell.readLine session = (.error error, later))
      (same : other.unsaved = session.unsaved) :
      shell.readLine other = (.error error, (shell.readLine other).2) ∧
        (shell.readLine other).2.unsaved = later.unsaved := by
    have readOther := shell.readLine_unsaved other
    rw [same, readLine_unsaved, read] at readOther
    obtain ⟨answered, later_eq⟩ := Prod.mk.inj readOther
    exact ⟨Prod.ext answered.symm rfl, later_eq.symm⟩
  induction runs generalizing other writings with
  | closed read =>
      obtain ⟨readOther, later_eq⟩ := reads read same
      exact ⟨[], _, .closed readOther, rfl, later_eq⟩
  | broken read opened =>
      obtain ⟨readOther, later_eq⟩ := reads read same
      exact ⟨[], _, .broken readOther opened, rfl, later_eq⟩
  | stopped takes stopped =>
      obtain ⟨turn, takesOther, turn_eq⟩ := takes.saving same (writings 0)
      have stoppedOther := (congrArg Turn.result turn_eq).trans stopped
      refine ⟨[turn], turn.after, .stopped takesOther stoppedOther, ?_,
        congrArg Turn.after turn_eq⟩
      simp only [List.map_cons, List.map_nil, turn_eq]
  | turn takes went_on _ ih =>
      obtain ⟨turn, takesOther, turn_eq⟩ := takes.saving same (writings 0)
      obtain ⟨others, later, runs, others_eq, later_eq⟩ :=
        ih (congrArg Turn.after turn_eq) fun index => writings (index + 1)
      have went_on := (congrArg Turn.result turn_eq).trans went_on
      refine ⟨turn :: others, later, .turn takesOther went_on runs, ?_, later_eq⟩
      simp only [List.map_cons, turn_eq, others_eq]

end Saving

/-- The loop accounts for every line: each one that is read is recorded behind the ones before it
and run once after that, up to an interrupt, and the history ends as the one at the start with all
lines.  Reading is interrupted by Ctrl+C, on the line or in its picker.  However the attempts to
write the history file end, the loop takes these turns to this end. -/
theorem run_accounts (shell : Shell σ) (session : Session σ) :
    ∃ turns, shell.Runs session turns (shell.run session).1 (shell.run session).2 ∧
      shell.Accounts session turns (shell.run session).1 (shell.run session).2 ∧
      (∀ (before : Session σ) (taken : List Signal),
        before.console.signals = taken ++ (shell.readLine before).2.console.signals →
          ((shell.readLine before).1 = .error .interrupted ↔
            ∃ event, Signal.key event ∈ taken ∧ event.IsControlC)) ∧
      ∀ writings : Nat → Writing, ∃ others last,
        (∀ possible result ending, shell.RunsSaving writings session possible result ending ↔
          possible = others ∧ result = (shell.run session).1 ∧ ending = last) ∧
        others.map Turn.unsaved = turns.map Turn.unsaved ∧
        last.unsaved = (shell.run session).2.unsaved := by
  obtain ⟨turns, runs⟩ := shell.exists_runs session
  refine ⟨turns, runs, runs.accounts, ?_, ?_⟩
  · intro before taken split
    exact shell.readLine_interrupted_iff split
  · intro writings
    obtain ⟨others, last, saving, others_eq, last_eq⟩ := runs.saving rfl writings
    refine ⟨others, last, ?_, others_eq, last_eq⟩
    intro possible result ending
    constructor
    · exact fun other => other.unique saving
    · rintro ⟨rfl, rfl, rfl⟩
      exact saving

end Shell

end OperatorShell
