import OperatorShell.Session.CommandPrompt
import OperatorShell.Session.Execution

/-!
# Sessions

A session is everything that a shell carries from one line to the next: the console,
the history with its file, and the store of the catalog.  `readLine` lets the operator
type a line, `runOnce` runs one and prints what is to say about it, and `run` does both
until the input is closed.
-/

namespace OperatorShell

open Command Session Text

variable {σ : Type} {device : Device}

/-- The commands and settings of a shell. -/
structure Shell (σ : Type) where
  registry : Registry σ
  settings : Settings

/-- The state of a shell. -/
structure Session (σ : Type) (device : Device := .sound) where
  console : Console device
  history : History
  /-- What is at the path of the history file. -/
  disk : Disk
  store : σ

namespace Shell

/-- Read a line that is not blank. -/
def readLine (shell : Shell σ) (session : Session σ device) :
    Except ReadError String × Session σ device :=
  (session.console.enterRaw.map ({ session with console := · })).into fun session =>
    let (guard, display) := session.console.display.enter Keys.KeyMap.commandPrompt
    let (result, state, signals) :=
      (PromptState.widget shell.registry shell.settings).run
        (PromptState.start shell.settings session.history session.store display)
        session.console.signals
    (result,
      { session with
        console := ⟨(state.display.release guard).leaveRaw, signals⟩
        history := state.history
        store := state.store })

/-- Run a line without printing anything about it. -/
def dispatch (shell : Shell σ) (line : String) (session : Session σ device) :
    List Report × Session σ device :=
  let (reports, scene) :=
    runLine shell.registry shell.settings.askStyle line
      ⟨session.console, session.store⟩
  (reports, { session with console := scene.console, store := scene.store })

/-- What is printed about a clause. -/
def announcement? (report : Report) : Option String :=
  match report.result with
  | .ok (.executed _) => none
  | .ok (.help _ text) => some (trimEndText text)
  | .error error => some ("error: " ++ error.message)

/-- Print what is to say about clauses, up to one that was interrupted. -/
def announce : List Report → Console device → Except ReadError Unit × Console device
  | [], console => (.ok (), console)
  | report :: rest, console =>
      if report.isInterrupted then (.error .interrupted, console)
      else
        match announcement? report with
        | some text => (console.writeLine text).into (announce rest)
        | none => announce rest console

/-- Announcing leaves the keys alone. -/
@[simp] theorem signals_announce (reports : List Report) (console : Console device) :
    (announce reports console).2.signals = console.signals := by
  induction reports generalizing console with
  | nil => rfl
  | cons report rest ih =>
      unfold announce
      split
      · rfl
      · split
        · unfold Attempt.into
          split
          · rw [ih, Console.signals_writeLine]
          · rfl
        · exact ih console

/-- Whether a line with these reports succeeded: the last clause that ran decides, and
a line without clauses succeeds. -/
def allWell (reports : List Report) : Bool :=
  match reports.getLast? with
  | some report => report.succeeded
  | none => true

/-- Run a line and print what is to say about it. -/
def runOnce (shell : Shell σ) (line : String) (session : Session σ device) :
    Except ReadError Bool × Session σ device :=
  let (reports, session) := shell.dispatch line session
  let (result, console) := announce reports session.console
  (result.map fun _ => allWell reports, { session with console := console })

/-- Put a line into the history.  A history file that cannot be written stays as it
is. -/
def record (line : String) (session : Session σ device) : Session σ device :=
  let (disk, history) := session.history.submit line session.disk
  { session with history := history, disk := disk.getD session.disk }

/-- A line that has been read took at least one key. -/
theorem length_signals_readLine {shell : Shell σ} {session after : Session σ device}
    {line : String} (answered : shell.readLine session = (.ok line, after)) :
    after.console.signals.length < session.console.signals.length := by
  unfold readLine Attempt.into at answered
  split at answered
  · simp only [Prod.mk.injEq] at answered
    obtain ⟨answered, rfl⟩ := answered
    exact Widget.length_of_run_ok (Prod.ext answered rfl)
  · cases congrArg Prod.fst answered

/-- Running a line leaves the last ones of the keys that were to come. -/
theorem signals_runOnce_suffix (shell : Shell σ) (line : String)
    (session : Session σ device) :
    (shell.runOnce line session).2.console.signals <:+ session.console.signals := by
  simp only [runOnce, signals_announce]
  exact signals_runLine_suffix ..

/-- Recording a line leaves the keys alone. -/
@[simp] theorem signals_record (line : String) (session : Session σ device) :
    (record line session).console.signals = session.console.signals := rfl

/-- Read lines, record them and run them until the input is closed.  Failures of
commands are printed; an interrupt and a fault of the terminal end the session. -/
def run (shell : Shell σ) (session : Session σ device) :
    Except ReadError Unit × Session σ device :=
  match _read : shell.readLine session with
  | (.error .closed, after) => (.ok (), after)
  | (.error error, after) => (.error error, after)
  | (.ok line, after) =>
      match _ran : shell.runOnce line (record line after) with
      | (.error error, last) => (.error error, last)
      | (.ok _, last) => shell.run last
termination_by session.console.signals.length
decreasing_by
  have shorter := length_signals_readLine _read
  have kept := (shell.signals_runOnce_suffix line (record line after)).length_le
  simp only [_ran, signals_record] at kept
  omega

end Shell

end OperatorShell
