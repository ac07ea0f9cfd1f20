import OperatorShell.Proofs.History.Log
import OperatorShell.Proofs.Session.Suggesting

/-!
# Going through the history on the line

The first step into the history sets the line aside as a draft, and the step out of it brings the
draft back.  In between the line is an entry.  Where the operator is can be told from the keys
alone, and motions on the line and keys without a meaning do not matter.
-/

namespace OperatorShell

open Command Session Keys Edit

variable {σ : Type}

/-- The action goes through the history, or it is a motion that leaves the text alone. -/
def Keys.Action.Browses (action : Action) : Prop :=
  action = .historyPrevious ∨ action = .historyNext ∨ action.IsPlainMotion
  deriving Decidable

/-- A key that browses on the line, or has no meaning there; or no key yet. -/
def Signal.Browses : Signal → Prop
  | .pending => True
  | .key event => ∀ action ∈ KeyMap.commandPrompt.lookup event, action.Browses
  | .failed _ | .closed => False

instance : DecidablePred Signal.Browses
  | .pending => .isTrue trivial
  | .key event =>
      inferInstanceAs (Decidable (∀ action ∈ KeyMap.commandPrompt.lookup event, action.Browses))
  | .failed _ | .closed => .isFalse id

namespace History

/-- The index after an action, when there are this many entries; no index is the draft. -/
def walk (count : Nat) : Option Nat → Action → Option Nat
  | none, .historyPrevious => if count = 0 then none else some 0
  | some index, .historyPrevious => some (min (index + 1) (count - 1))
  | some (index + 1), .historyNext => some index
  | some 0, .historyNext => none
  | scroll, _ => scroll

/-- The index after a signal. -/
def heed (count : Nat) (scroll : Option Nat) : Signal → Option Nat
  | .key event =>
      match KeyMap.commandPrompt.lookup event with
      | some action => walk count scroll action
      | none => scroll
  | .pending | .failed _ | .closed => scroll

/-- The index after signals. -/
def indexAfter (count : Nat) (scroll : Option Nat) (signals : List Signal) : Option Nat :=
  signals.foldl (heed count) scroll

/-- The text at an index: the draft, or an entry. -/
def textAt (entries : List String) (draft : List Char) : Option Nat → Option (List Char)
  | none => some draft
  | some index => entries[index]?.map String.toList

section Steps

variable {history : History}

theorem walk_of_isPlainMotion {action : Action} (motion : action.IsPlainMotion) (count : Nat)
    (scroll : Option Nat) : walk count scroll action = scroll := by
  rcases motion with rfl | rfl | rfl | rfl <;> cases scroll <;> rfl

theorem previous_of_empty (empty : history.entries = []) : history.previous = (none, history) := by
  simp [previous, empty]

theorem exists_walk_previous {count : Nat} (nonempty : count ≠ 0) (scroll : Option Nat) :
    ∃ index, older scroll count = some index ∧
      walk count scroll .historyPrevious = some index := by
  unfold older
  rw [if_neg nonempty]
  cases scroll with
  | none => exact ⟨0, rfl, if_neg nonempty⟩
  | some index => exact ⟨_, rfl, rfl⟩

/-- A step back shows the entry that it comes to. -/
theorem exists_previous_eq (nonempty : history.entries ≠ []) :
    ∃ index entry, history.entries[index]? = some entry ∧
      walk history.entries.length history.scroll .historyPrevious = some index ∧
      history.previous = (some entry, { history with scroll := some index }) := by
  have counted := mt List.length_eq_zero_iff.mp nonempty
  obtain ⟨index, moved, walked⟩ := exists_walk_previous counted history.scroll
  have entry_eq := List.getElem?_eq_getElem (older_lt counted moved)
  refine ⟨index, _, entry_eq, walked, ?_⟩
  simp [previous, nonempty, moved, current?, entry_eq]

/-- A step forward shows the entry that it comes to, or nothing where the draft is. -/
theorem next_eq (history : History) :
    history.next =
      let scroll := walk history.entries.length history.scroll .historyNext
      (scroll.bind (history.entries[·]?), { history with scroll := scroll }) := by
  have newer_eq : newer history.scroll =
      walk history.entries.length history.scroll .historyNext := by
    rcases history.scroll with _ | _ | index <;> rfl
  simp only [next, newer_eq, current?]

end Steps

end History

namespace Session.PromptState

/-- The prompt is at this index on its way through the history: the line is the draft or an entry,
and on an entry the draft is kept. -/
structure Browsing (entries : List String) (draft : List Char) (scroll : Option Nat)
    (state : PromptState σ) : Prop where
  scroll_eq : state.history.scroll = scroll
  text_eq : History.textAt entries draft scroll = some state.editor.buffer.text
  draft_eq : scroll ≠ none → state.draft = draft

section Browsing

variable {state : PromptState σ} {entries : List String} {draft : List Char}
  {scroll : Option Nat}

theorem Browsing.text_of_none (browsing : state.Browsing entries draft none) :
    state.editor.buffer.text = draft :=
  (Option.some.inj browsing.text_eq).symm

theorem Browsing.text_of_some {index : Nat} (browsing : state.Browsing entries draft (some index)) :
    ∃ inRange : index < entries.length,
      state.editor.buffer.text = entries[index].toList := by
  obtain ⟨entry, entry_eq, shown⟩ := Option.map_eq_some_iff.mp browsing.text_eq
  obtain ⟨inRange, rfl⟩ := List.getElem?_eq_some_iff.mp entry_eq
  exact ⟨inRange, shown.symm⟩

/-- Without entries the draft is not left. -/
theorem Browsing.scroll_eq_none (browsing : state.Browsing [] draft scroll) : scroll = none := by
  cases scroll with
  | none => rfl
  | some index => cases browsing.text_eq

theorem Browsing.refresh (browsing : state.Browsing entries draft scroll) :
    state.refresh.state.Browsing entries draft scroll :=
  ⟨browsing.scroll_eq, browsing.text_eq.trans (congrArg some state.text_refresh.symm),
    browsing.draft_eq⟩

/-- A step back leaves the draft for the newest entry. -/
theorem Browsing.showOlder (browsing : state.Browsing entries draft scroll)
    (ready : state.Ready entries) :
    state.showOlder.Browsing entries draft
      (History.walk entries.length scroll .historyPrevious) := by
  obtain rfl := ready.entries_eq
  have draft_eq : (if state.history.scroll = none then state.editor.buffer.text
      else state.draft) = draft := by
    rw [browsing.scroll_eq]
    cases scroll with
    | none => exact (if_pos rfl).trans browsing.text_of_none
    | some index => exact (if_neg nofun).trans (browsing.draft_eq nofun)
  by_cases empty : state.history.entries = []
  · rw [empty] at browsing ⊢
    obtain rfl := browsing.scroll_eq_none
    rw [PromptState.showOlder, History.previous_of_empty empty, draft_eq]
    exact ⟨browsing.scroll_eq, browsing.text_eq, fun _ => rfl⟩
  · obtain rfl := browsing.scroll_eq
    obtain ⟨index, entry, entry_eq, walked, previous_eq⟩ := History.exists_previous_eq empty
    rw [walked, PromptState.showOlder, previous_eq, draft_eq]
    constructor
    · rfl
    · change (state.history.entries[index]?.map String.toList) =
        some (state.editor.buffer.replace entry.toList).text
      rw [entry_eq, Buffer.text_replace ready.upToDate.active]
      rfl
    · exact fun _ => rfl

/-- A step forward from the newest entry brings back the draft. -/
theorem Browsing.showNewer (browsing : state.Browsing entries draft scroll)
    (ready : state.Ready entries) :
    state.showNewer.Browsing entries draft (History.walk entries.length scroll .historyNext) := by
  obtain rfl := ready.entries_eq
  have scroll_eq := browsing.scroll_eq
  have replaced := Buffer.text_replace ready.upToDate.active
  unfold PromptState.showNewer
  rw [History.next_eq, scroll_eq]
  match scroll with
  | none => exact browsing
  | some 0 =>
      have draft_eq := browsing.draft_eq nofun
      refine ⟨rfl, ?_, fun moved => absurd rfl moved⟩
      exact congrArg some (draft_eq.symm.trans (replaced _).symm)
  | some (index + 1) =>
      obtain ⟨inRange, -⟩ := browsing.text_of_some
      have entry_eq := List.getElem?_eq_getElem (Nat.lt_of_succ_lt inRange)
      refine ⟨rfl, ?_, fun _ => browsing.draft_eq nofun⟩
      change state.history.entries[index]?.map String.toList =
        some (state.editor.buffer.replace
          ((state.history.entries[index]?.map String.toList).getD state.draft)).text
      rw [replaced, entry_eq]
      rfl

variable (registry : Registry σ) (settings : Settings)

/-- An action that browses goes one step on the way. -/
theorem Browsing.act (browsing : state.Browsing entries draft scroll)
    (ready : state.Ready entries) {action : Action} (browses : action.Browses) :
    ∃ next, state.act registry settings action = .wait next ∧
      next.Browsing entries draft (History.walk entries.length scroll action) := by
  rcases browses with rfl | rfl | motion
  · exact ⟨_, rfl, (browsing.showOlder ready).refresh⟩
  · exact ⟨_, rfl, (browsing.showNewer ready).refresh⟩
  · have text_eq := state.editor.text_apply_of_isPlainMotion motion
    have moved : ({ state with editor := state.editor.apply action }).Browsing
        entries draft scroll :=
      ⟨browsing.scroll_eq, browsing.text_eq.trans (congrArg some text_eq.symm),
        browsing.draft_eq⟩
    rw [History.walk_of_isPlainMotion motion]
    rcases motion with rfl | rfl | rfl | rfl <;> exact ⟨_, rfl, moved.refresh⟩

/-- A key that browses leaves the prompt ready for the next one, one step on. -/
theorem Browsing.react (browsing : state.Browsing entries draft scroll)
    (ready : state.Ready entries) {event : KeyEvent} (browses : (Signal.key event).Browses) :
    ∃ next, state.react registry settings event = .wait next ∧ next.Ready entries ∧
      next.Browsing entries draft (History.heed entries.length scroll (.key event)) := by
  rw [History.heed]
  cases meant : KeyMap.commandPrompt.lookup event with
  | none => exact ⟨state, ready.react_of_unbound meant registry settings, ready, browsing⟩
  | some action =>
      rw [ready.react_of_meant meant]
      have step := browses action meant
      have other : action ≠ .complete := by
        rintro rfl
        exact absurd step (by decide)
      obtain ⟨next, acted, moved⟩ := browsing.act registry settings ready step
      exact ⟨next, acted, ready.of_act other acted, moved⟩

/-- However many keys browse, the prompt is where they lead to. -/
theorem Browsing.exists_after (browsing : state.Browsing entries draft scroll)
    (ready : state.Ready entries) {signals : List Signal}
    (browse : ∀ signal ∈ signals, signal.Browses) :
    ∃ later, (widget registry settings).after state signals = some later ∧ later.Ready entries ∧
      later.Browsing entries draft (History.indexAfter entries.length scroll signals) := by
  -- Every key moves the index along with the state, so the induction is for all of both.
  induction signals generalizing state scroll with
  | nil => exact ⟨state, rfl, ready, browsing⟩
  | cons signal rest ih =>
      obtain ⟨first, others⟩ := List.forall_mem_cons.mp browse
      cases signal with
      | pending => exact ih browsing ready others
      | closed | failed message => exact first.elim
      | key event =>
          obtain ⟨next, reacted, nextReady, moved⟩ :=
            browsing.react registry settings ready first
          rw [Widget.after, react_widget, reacted]
          exact ih moved nextReady others

end Browsing

end Session.PromptState

namespace Shell

/-- Going through the history does not lose the line.  From a moment at which no entry is shown, and
for as long as keys only browse, the index is where they lead to.  Without an index the text is the
one of that moment, and an index is that of an entry, which is the text. -/
theorem browsing_keeps_draft (shell : Shell σ) (session : Session σ) {taken : List Signal}
    {event : KeyEvent} {line : PromptState σ}
    (comes : shell.lineAt session taken event = some line)
    (fresh : line.history.scroll = none) {rest : List Signal}
    (browse : ∀ signal ∈ .key event :: rest, signal.Browses) :
    let entries := session.history.entries
    let scroll := History.indexAfter entries.length none (.key event :: rest)
    ∃ later, shell.promptAfter session (taken ++ .key event :: rest) = some later ∧
      later.completion = none ∧ later.history.entries = entries ∧
      later.history.scroll = scroll ∧
      (scroll = none → later.editor.buffer.text = line.editor.buffer.text) ∧
      ∀ index, scroll = some index →
        ∃ inRange : index < entries.length,
          later.editor.buffer.text = entries[index].toList := by
  intro entries scroll
  have ready := ready_of_lineAt comes
  have start : line.Browsing entries line.editor.buffer.text none :=
    ⟨fresh, rfl, fun moved => absurd rfl moved⟩
  obtain ⟨later, reached, laterReady, browsing⟩ :=
    start.exists_after shell.registry shell.settings ready browse
  rw [← promptAfter_of_lineAt comes] at reached
  change later.Browsing entries line.editor.buffer.text scroll at browsing
  refine ⟨later, reached, laterReady.closed, laterReady.entries_eq, browsing.scroll_eq, ?_, ?_⟩
  · intro back
    rw [back] at browsing
    exact browsing.text_of_none
  · intro index onEntry
    rw [onEntry] at browsing
    exact browsing.text_of_some

/-- The history goes back over `dr` and no further than it is long, and it comes forward to `dr`. -/
theorem draft_behind_letters :
    let typed : List Signal := [.key (.plain (.char 'd')), .key (.plain (.char 'r'))]
    let back : List Signal := [.key (.plain .home), .key (.plain .up), .key (.plain .up),
      .key (.plain .up)]
    let forward : List Signal := [.key (.plain .down), .pending, .key (.plain .down),
      .key (.plain .left), .key (.plain .down)]
    ∃ line, planning.lineAt seasoned typed (.plain .up) = some line ∧
      line.history.scroll = none ∧
      (∀ signal ∈ .key (.plain .up) :: (back ++ forward), signal.Browses) ∧
      (∃ later,
        planning.promptAfter seasoned (typed ++ .key (.plain .up) :: back) = some later ∧
          later.editor.buffer.text = "apply all".toList) ∧
      ∃ later,
        planning.promptAfter seasoned (typed ++ .key (.plain .up) :: (back ++ forward)) =
          some later ∧ later.editor.buffer.text = "dr".toList := by
  intro typed back forward
  have shown : (planning.lineAt seasoned typed (.plain .up)).map
      (fun line => (line.history.scroll, line.editor.buffer.text)) =
        some (none, ['d', 'r']) := by
    decide +kernel
  obtain ⟨line, comes, line_eq⟩ := Option.map_eq_some_iff.mp shown
  obtain ⟨fresh, text_eq⟩ := Prod.mk.inj line_eq
  have goesBack : ∀ signal ∈ .key (.plain .up) :: back, signal.Browses := by decide +kernel
  have browse : ∀ signal ∈ .key (.plain .up) :: (back ++ forward), signal.Browses := by
    decide +kernel
  refine ⟨line, comes, fresh, browse, ?_, ?_⟩
  · obtain ⟨later, reached, -, -, -, -, onEntry⟩ :=
      browsing_keeps_draft planning seasoned comes fresh goesBack
    obtain ⟨inRange, later_eq⟩ := onEntry 2 (by decide +kernel)
    exact ⟨later, reached, later_eq⟩
  · obtain ⟨later, reached, -, -, -, atDraft, -⟩ :=
      browsing_keeps_draft planning seasoned comes fresh browse
    exact ⟨later, reached, (atDraft (by decide +kernel)).trans text_eq⟩

end Shell

end OperatorShell
