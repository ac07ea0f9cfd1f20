import OperatorShell.Session.Basic

/-!
# The turns of a session

The loop of a shell takes turns: it reads a line, records it and runs it.  A run of the loop is
a sequence of turns with an end, and each session has one.  What reading, recording and running
keep holds after every turn and at the end.
-/

namespace OperatorShell

open Session

variable {σ : Type} {device : Device}

/-- A line that was read, and what came of it. -/
structure Turn (σ : Type) (device : Device := .sound) where
  line : String
  /-- The session when the line had been read. -/
  read : Session σ device
  result : Except ReadError Bool
  /-- The session when the line had been recorded and run. -/
  after : Session σ device

namespace Shell

/-- The shell reads a line, records it and runs it. -/
structure Takes (shell : Shell σ) (session : Session σ device)
    (turn : Turn σ device) : Prop where
  read_eq : shell.readLine session = (.ok turn.line, turn.read)
  ran_eq : shell.runOnce turn.line (record turn.line turn.read) = (turn.result, turn.after)

/-- The turns that the loop takes from a session on, and how and where it ends. -/
inductive Runs (shell : Shell σ) :
    Session σ device → List (Turn σ device) → Except ReadError Unit →
      Session σ device → Prop where
  | closed {session last : Session σ device} :
      shell.readLine session = (.error .closed, last) → Runs shell session [] (.ok ()) last
  | broken {session last : Session σ device} {error : ReadError} :
      shell.readLine session = (.error error, last) → error ≠ .closed →
        Runs shell session [] (.error error) last
  | stopped {session : Session σ device} {turn : Turn σ device} {error : ReadError} :
      shell.Takes session turn → turn.result = .error error →
        Runs shell session [turn] (.error error) turn.after
  | turn {session last : Session σ device} {turn : Turn σ device} {turns : List (Turn σ device)}
      {succeeded : Bool} {result : Except ReadError Unit} :
      shell.Takes session turn → turn.result = .ok succeeded →
        Runs shell turn.after turns result last →
          Runs shell session (turn :: turns) result last

variable {shell : Shell σ} {session last : Session σ device} {turns : List (Turn σ device)}
  {result : Except ReadError Unit}

/-- Every session has a run. -/
theorem exists_runs (shell : Shell σ) (session : Session σ device) :
    ∃ turns, shell.Runs session turns (shell.run session).1 (shell.run session).2 := by
  fun_induction Shell.run shell session with
  | case1 session last read => exact ⟨[], .closed read⟩
  | case2 session error last opened read =>
      exact ⟨[], .broken read opened⟩
  | case3 session line read readLine error last ran =>
      exact ⟨[⟨line, read, .error error, last⟩], .stopped ⟨readLine, ran⟩ rfl⟩
  | case4 session line read readLine succeeded last ran ih =>
      obtain ⟨turns, runs⟩ := ih
      exact ⟨⟨line, read, .ok succeeded, last⟩ :: turns, .turn ⟨readLine, ran⟩ rfl runs⟩

/-- What the steps of a turn keep holds after every turn and at the end. -/
theorem Runs.holds (holds : Session σ device → Prop)
    (read : ∀ session, holds session → holds (shell.readLine session).2)
    (recorded : ∀ line session, holds session → holds (record line session))
    (ran : ∀ line session, holds session → holds (shell.runOnce line session).2)
    (runs : shell.Runs session turns result last) (start : holds session) :
    (∀ turn ∈ turns, holds turn.read ∧ holds turn.after) ∧ holds last := by
  have reads {session later : Session σ device} {result : Except ReadError String}
      (read_eq : shell.readLine session = (result, later)) (start : holds session) :
      holds later := by
    have afterRead := read session start
    rwa [read_eq] at afterRead
  have taken {session : Session σ device} {turn : Turn σ device} (takes : shell.Takes session turn)
      (start : holds session) : holds turn.read ∧ holds turn.after := by
    have afterRead := reads takes.read_eq start
    have afterRun := ran turn.line _ (recorded turn.line _ afterRead)
    rw [takes.ran_eq] at afterRun
    exact ⟨afterRead, afterRun⟩
  induction runs with
  | closed read_eq => exact ⟨by simp, reads read_eq start⟩
  | broken read_eq => exact ⟨by simp, reads read_eq start⟩
  | stopped takes =>
      have kept := taken takes start
      exact ⟨by simpa using kept, kept.2⟩
  | turn takes _ _ ih =>
      have kept := taken takes start
      obtain ⟨later, atEnd⟩ := ih kept.2
      exact ⟨List.forall_mem_cons.mpr ⟨kept, later⟩, atEnd⟩

end Shell

end OperatorShell
